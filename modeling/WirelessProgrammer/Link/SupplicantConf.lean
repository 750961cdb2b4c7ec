import WirelessProgrammer.Link.Bss

/-!
# The configuration of the supplicant

`spawn_wpa_supplicant` puts the SSID and the passphrase between quotes into a file of seven lines.  Quotes and
backslashes are escaped, line breaks are not: `config_lines_iff`.
-/

namespace WirelessProgrammer.Supplicant

/-- `s.replace(c, new)`. -/
def replaceChar (c : Char) (new s : List Char) : List Char := s.flatMap fun x => if x = c then new else [x]

def wpaQuote (s : List Char) : List Char := replaceChar '"' ['\\', '"'] (replaceChar '\\' ['\\', '\\'] s)

/-- What is written to `wpa_supplicant.conf`. -/
def config (ssid psk : List Char) : List Char :=
  "ap_scan=1\nnetwork=\x7b\n\tssid=\"".toList ++ wpaQuote ssid ++ "\"\n\tscan_ssid=1\n\tpsk=\"".toList ++ wpaQuote psk ++
    "\"\n\tkey_mgmt=WPA-PSK\n\x7d\n".toList

/-- The lines of the file, with the SSID in the third one and the passphrase in the fifth. -/
def template (ssid psk : List Char) : List (List Char) :=
  ["ap_scan=1".toList, "network=\x7b".toList, "\tssid=\"".toList ++ wpaQuote ssid ++ ['"'], "\tscan_ssid=1".toList,
    "\tpsk=\"".toList ++ wpaQuote psk ++ ['"'], "\tkey_mgmt=WPA-PSK".toList, "\x7d".toList]

private theorem mem_replaceChar {c x : Char} {new s : List Char} (hc : x ≠ c) (hnew : x ∉ new) :
    x ∈ replaceChar c new s ↔ x ∈ s := by
  induction s with
  | nil => rfl
  | cons y s ih =>
    unfold replaceChar at ih ⊢
    rw [List.flatMap_cons, List.mem_append, ih, List.mem_cons]
    by_cases hy : y = c
    · have hxy : x ≠ y := by rwa [hy]
      rw [if_pos hy]
      exact or_congr (iff_of_false hnew hxy) Iff.rfl
    · rw [if_neg hy, List.mem_singleton]

/-- The quoting leaves line breaks alone. -/
theorem newline_mem_wpaQuote {s : List Char} : '\n' ∈ wpaQuote s ↔ '\n' ∈ s := by
  unfold wpaQuote
  rw [mem_replaceChar (by decide) (by decide), mem_replaceChar (by decide) (by decide)]

private theorem config_eq (ssid psk : List Char) : config ssid psk = Text.unlines (template ssid psk) := by
  have hopen : "ap_scan=1\nnetwork=\x7b\n\tssid=\"".toList =
      "ap_scan=1".toList ++ ['\n'] ++ ("network=\x7b".toList ++ ['\n']) ++ "\tssid=\"".toList := by decide
  have hmiddle : "\"\n\tscan_ssid=1\n\tpsk=\"".toList =
      ['"'] ++ ['\n'] ++ ("\tscan_ssid=1".toList ++ ['\n']) ++ "\tpsk=\"".toList := by decide
  have hclose : "\"\n\tkey_mgmt=WPA-PSK\n\x7d\n".toList =
      ['"'] ++ ['\n'] ++ ("\tkey_mgmt=WPA-PSK".toList ++ ['\n']) ++ ("\x7d".toList ++ ['\n']) := by decide
  unfold config template Text.unlines
  rw [hopen, hmiddle, hclose]
  -- what the fixed texts are does not matter from here on
  generalize "ap_scan=1".toList = scan
  generalize "network=\x7b".toList = network
  generalize "\tssid=\"".toList = ssidKey
  generalize "\tscan_ssid=1".toList = scanSsid
  generalize "\tpsk=\"".toList = pskKey
  generalize "\tkey_mgmt=WPA-PSK".toList = keyMgmt
  generalize "\x7d".toList = brace
  simp only [List.flatMap_cons, List.flatMap_nil, List.append_assoc, List.append_nil]

private theorem newline_mem_template {ssid psk : List Char} :
    (∀ l ∈ template ssid psk, '\n' ∉ l) ↔ '\n' ∉ ssid ∧ '\n' ∉ psk := by
  have hopen : '\n' ∉ "\tssid=\"".toList ∧ '\n' ∉ "\tpsk=\"".toList ∧ '\n' ∉ ['"'] := by decide
  have hfixed : '\n' ∉ "ap_scan=1".toList ∧ '\n' ∉ "network=\x7b".toList ∧ '\n' ∉ "\tscan_ssid=1".toList ∧
      '\n' ∉ "\tkey_mgmt=WPA-PSK".toList ∧ '\n' ∉ "\x7d".toList := by decide
  obtain ⟨hssid, hpsk, hquote⟩ := hopen
  obtain ⟨hscan, hnetwork, hscanSsid, hmgmt, hclose⟩ := hfixed
  simp only [template, List.forall_mem_cons, List.mem_append, not_or, newline_mem_wpaQuote, hssid, hpsk, hquote, hscan,
    hnetwork, hscanSsid, hmgmt, hclose, not_false_eq_true, true_and, and_true]
  constructor
  · intro h
    exact ⟨h.1, h.2.1⟩
  · intro h
    exact ⟨h.1, h.2, fun l hl => absurd hl List.not_mem_nil⟩

/-- The file consists of the seven lines, each value in a line of its own, if and only if neither the SSID nor the
passphrase has a line break in it. -/
theorem config_lines_iff (ssid psk : List Char) :
    Text.lines (config ssid psk) = template ssid psk ↔ '\n' ∉ ssid ∧ '\n' ∉ psk := by
  rw [config_eq, Text.lines_unlines_iff, newline_mem_template]

/-- An SSID that brings a line of its own. -/
private def strange : String := "RB2300_\n\tpriority=9"

private theorem ssidFromIes_strange : ssidFromIes (0 :: 19 :: Text.utf8Bytes strange) = some strange := by
  have hlen : (Text.utf8Bytes strange).length = 19 := by decide
  have htake : (Text.utf8Bytes strange).take (19 : UInt8).toNat = Text.utf8Bytes strange := by
    apply List.take_of_length_le
    rw [hlen]
    decide
  rw [ssidFromIes, htake, Text.fromUtf8Lossy_utf8Bytes, String.ofList_toList, hlen]
  rfl

/-- A scanned SSID with a line break adds a line to the file. -/
theorem config_injected : ∃ bss r ssid psk, parseBssInfos bss = some r ∧ r.ssid = some ssid ∧
    Text.lines (config ssid.toList psk) ≠ template ssid.toList psk := by
  refine ⟨[.rawInformationElements (0 :: 19 :: Text.utf8Bytes strange)], ⟨some strange, none, none⟩, strange,
    "12345678".toList, ?_, rfl, ?_⟩
  · have hvisit : BssInfo.visit ⟨none, none, none⟩ (.rawInformationElements (0 :: 19 :: Text.utf8Bytes strange)) =
        ⟨some strange, none, none⟩ := by
      rw [BssInfo.visit, if_pos rfl, ssidFromIes_strange]
    rw [parseBssInfos, List.foldl_cons, List.foldl_nil, hvisit]
    rfl
  · rw [Ne, config_eq, Text.lines_unlines_iff, newline_mem_template]
    intro h
    exact absurd h.1 (by decide)

end WirelessProgrammer.Supplicant
