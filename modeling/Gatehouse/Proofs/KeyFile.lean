import Gatehouse.Directory
import Gatehouse.Proofs.KeyText
import Gatehouse.Proofs.Text.Blank

/-!
# Key files

A key file is read as the text between the white space at its ends (`load_of_trims`), so that what is
known of texts (`KeyReading`) says which files are accepted and what is wrong with any other
(`LoadedByGrammar`).  A file that was saved is one of those that are accepted; saving what was loaded
from it leaves the directory as it is (`write_write`, `key_files`).
-/

namespace Gatehouse

/-! ## Saving again -/

namespace Directory

/-- Writing a file makes no directory of its path. -/
theorem not_isDirectory_enter {d : Directory} {path : List Char} {text : String}
    (h : isDirectory d path = false) :
    isDirectory (d.filter (·.1 != String.ofList path) ++ [(String.ofList path, text)]) path
      = false := by
  rw [isDirectory, Bool.or_eq_false_iff] at h ⊢
  refine ⟨h.1, ?_⟩
  rw [List.any_append, Bool.or_eq_false_iff]
  constructor
  · rw [List.any_eq_false]
    intro file hfile
    exact List.any_eq_false.1 h.2 file (List.mem_filter.1 hfile).1
  · -- no path goes on behind its own end
    have hlonger : ¬ path ++ ['/'] <+: path := by
      intro hprefix
      have := hprefix.length_le
      rw [List.length_append, List.length_singleton] at this
      omega
    rw [List.any_cons, List.any_nil, Bool.or_false, String.toList_ofList, Bool.eq_false_iff]
    exact fun h => hlonger (List.isPrefixOf_iff_prefix.1 h)

/-- Writing a file leaves the directories that are there. -/
theorem isDirectory_enter {d : Directory} {name text : String} {path : List Char}
    (h : isDirectory d path = true) :
    isDirectory (d.filter (·.1 != name) ++ [(name, text)]) path = true := by
  rw [isDirectory, Bool.or_eq_true] at h ⊢
  refine h.imp_right fun hany => ?_
  obtain ⟨file, hfile, hprefix⟩ := List.any_eq_true.1 hany
  rw [List.any_append, Bool.or_eq_true]
  by_cases hname : file.1 = name
  · right
    rw [List.any_cons, ← hname, hprefix, Bool.true_or]
  · left
    have hkept : (file.1 != name) = true := bne_iff_ne.2 hname
    exact List.any_eq_true.2 ⟨file, List.mem_filter.2 ⟨hfile, hkept⟩, hprefix⟩

/-- Writing a text that is there already changes nothing. -/
theorem write_write {d e : Directory} {path text : String} (h : d.write path text = .ok e) :
    e.write path text = .ok e := by
  unfold write at h ⊢
  generalize plainPath path.toList = plain at h ⊢
  dsimp only at h ⊢
  split at h
  · cases h
  rename_i hfile
  rw [Bool.not_eq_true] at hfile
  split at h
  · cases h
  rename_i hplace
  obtain rfl := Except.ok.inj h
  rw [if_neg (Bool.not_eq_true _ ▸ not_isDirectory_enter hfile)]
  have hstays : ¬ (plain.isEmpty || plain.contains '/' && !isDirectory
      (d.filter (·.1 != String.ofList plain) ++ [(String.ofList plain, text)])
      (parent plain)) = true := by
    rw [Bool.or_eq_true, not_or, Bool.and_eq_true, not_and, Bool.not_eq_true', Bool.not_eq_false]
      at hplace ⊢
    exact ⟨hplace.1, fun hslash => isDirectory_enter (hplace.2 hslash)⟩
  rw [if_neg hstays]
  simp [List.filter_append, List.filter_filter]

end Directory

/-! ## What is read of a file -/

namespace Hex

theorem toNat_toLower (c : Char) :
    c.toLower.toNat = if 65 ≤ c.toNat ∧ c.toNat ≤ 90 then c.toNat + 32 else c.toNat := by
  have hupper : (c.val ≥ 'A'.val ∧ c.val ≤ 'Z'.val) ↔ 65 ≤ c.toNat ∧ c.toNat ≤ 90 := Iff.rfl
  unfold Char.toLower
  split
  · rename_i h
    have hrange := hupper.1 h
    rw [if_pos hrange]
    show (c.val + ('a'.val - 'A'.val)).toNat = c.toNat + 32
    rw [UInt32.toNat_add]
    show (c.toNat + 32) % 4294967296 = c.toNat + 32
    omega
  · rename_i h
    rw [if_neg fun hrange => h (hupper.2 hrange)]

theorem isDigit_toLower_iff {c : Char} : IsDigit c.toLower ↔ IsDigit c := by
  rw [isDigit_iff, isDigit_iff, toNat_toLower]
  split <;> omega

theorem isBlank_eq_false {c : Char} (h : IsDigit c) : Blank.isBlank c = false := by
  rw [isDigit_iff] at h
  rw [← Bool.not_eq_true]
  intro hblank
  simp only [Blank.isBlank, Blank.codePoints, List.contains_eq_mem, List.mem_cons,
    List.not_mem_nil, or_false, decide_eq_true_eq] at hblank
  omega

end Hex

namespace Identity

/-- A key file is read as the text without the white space around it. -/
theorem load_of_trims {text : String} {core : List Char} (h : Blank.Trims text.toList core) :
    load (.file (Utf8.encode text)) = ofHex (String.ofList core) := by
  have htrim : Blank.trim text = String.ofList core :=
    congrArg String.ofList (Blank.trimChars_eq_iff.2 h)
  simp only [load, FileContent.readText, Utf8.decode?_encode, htrim]

theorem load_of_not_utf8 {b : Bytes} (h : ∀ text, b ≠ Utf8.encode text) :
    load (.file b) = .error (.io .notUtf8) := by
  have hdecode : Utf8.decode? b = none := by
    cases hb : Utf8.decode? b with
    | none => rfl
    | some text => exact absurd (Utf8.eq_encode_of_decode? hb) (h text)
  simp only [load, FileContent.readText, hdecode]

end Identity

/-- What the bytes of a key file are read as, by the text that they are alone. -/
structure LoadedByGrammar (b : Bytes) (loaded : Except KeyError Identity) : Prop where
  /-- A file is accepted exactly if it is a text of 64 digits with white space around them. -/
  accepted : (∃ i, loaded = .ok i) ↔ ∃ text core, b = Utf8.encode text ∧
    Blank.Trims text.toList core ∧ core.length = 64 ∧ ∀ c ∈ core, Hex.IsDigit c
  /-- The digits, in lower case, are those of the secret, as it stands. -/
  spelled : ∀ i, loaded = .ok i → ∀ text core, b = Utf8.encode text →
    Blank.Trims text.toList core → Hex.encodeChars i.secret.bytes = core.map Char.toLower
  /-- Bytes that are no text are not read. -/
  notUtf8 : loaded = .error (.io .notUtf8) ↔ ∀ text, b ≠ Utf8.encode text
  /-- What is wrong with a text is what is wrong with it as a key. -/
  refused : ∀ text core, b = Utf8.encode text → Blank.Trims text.toList core →
    ∀ e, loaded = .error e ↔ Key.ofHex (String.ofList core) = .error e
  /-- White space between digits is refused. -/
  gap : ∀ text front x inner y back, b = Utf8.encode text →
    text.toList = front ++ x :: (inner ++ y :: back) → Hex.IsDigit x → Hex.IsDigit y →
    (∃ c ∈ inner, Blank.isBlank c = true) → ∃ e, loaded = .error e
  /-- A byte order mark is no white space. -/
  mark : ∀ text, b = Utf8.encode text → '\uFEFF' ∈ text.toList → ∃ e, loaded = .error e

namespace Identity

theorem ofHex_eq_ok_iff {s : String} {i : Identity} : ofHex s = .ok i ↔ Key.ofHex s = .ok i.secret := by
  unfold ofHex
  cases Key.ofHex s with
  | error e => exact iff_of_false (fun h => by cases h) (fun h => by cases h)
  | ok k =>
    constructor
    · intro h
      obtain rfl := Except.ok.inj h
      rfl
    · intro h
      obtain rfl := Except.ok.inj h
      rfl

theorem ofHex_eq_error_iff {s : String} {e : KeyError} :
    ofHex s = .error e ↔ Key.ofHex s = .error e := by
  unfold ofHex
  cases Key.ofHex s with
  | error e' => exact ⟨fun h => congrArg Except.error (Except.error.inj h),
      fun h => congrArg Except.error (Except.error.inj h)⟩
  | ok k => exact iff_of_false (fun h => by cases h) (fun h => by cases h)

/-- A text is refused if anything but digits is left by trimming. -/
theorem refused_of_mem_core {text : String} {core : List Char} {c : Char}
    (trims : Blank.Trims text.toList core) (hmem : c ∈ core) (hc : ¬ Hex.IsDigit c) :
    ∃ e, load (.file (Utf8.encode text)) = .error e := by
  rw [load_of_trims trims]
  cases hread : ofHex (String.ofList core) with
  | error e => exact ⟨e, rfl⟩
  | ok i =>
    have hdigits := ((keyReading _).byGrammar.accepted.1 ⟨_, ofHex_eq_ok_iff.1 hread⟩).2
    rw [String.toList_ofList] at hdigits
    exact absurd (hdigits c hmem) hc

/-- What is wrong with a text as a key is not that it is none. -/
theorem load_text_ne_notUtf8 (text : String) :
    load (.file (Utf8.encode text)) ≠ .error (.io .notUtf8) := by
  rw [load_of_trims (Blank.trims_trimChars text.toList)]
  intro h
  exact (keyReading _).byGrammar.noFile _ (ofHex_eq_error_iff.1 h)

theorem loadedByGrammar (b : Bytes) : LoadedByGrammar b (load (.file b)) := by
  constructor
  case accepted =>
    constructor
    · rintro ⟨i, hload⟩
      by_cases htext : ∃ text, b = Utf8.encode text
      · obtain ⟨text, rfl⟩ := htext
        have trims := Blank.trims_trimChars text.toList
        rw [load_of_trims trims] at hload
        have haccepted := (keyReading _).byGrammar.accepted.1 ⟨_, ofHex_eq_ok_iff.1 hload⟩
        rw [← String.length_toList, String.toList_ofList] at haccepted
        exact ⟨text, _, rfl, trims, haccepted⟩
      · rw [load_of_not_utf8 (not_exists.1 htext)] at hload
        cases hload
    · rintro ⟨text, core, rfl, trims, haccepted⟩
      rw [load_of_trims trims]
      rw [← String.toList_ofList (l := core), String.length_toList] at haccepted
      obtain ⟨k, hk⟩ := (keyReading _).byGrammar.accepted.2 haccepted
      exact ⟨⟨k⟩, ofHex_eq_ok_iff.2 hk⟩
  case spelled =>
    rintro i hload text core rfl trims
    rw [load_of_trims trims, ofHex_eq_ok_iff] at hload
    have hspelled := congrArg String.toList ((keyReading _).byGrammar.spelled _ hload)
    rwa [PublicKey.toHex, Hex.encode, String.toList_ofList, String.toList_map,
      String.toList_ofList] at hspelled
  case notUtf8 =>
    refine ⟨?_, load_of_not_utf8⟩
    rintro hload text rfl
    exact load_text_ne_notUtf8 text hload
  case refused =>
    rintro text core rfl trims e
    rw [load_of_trims trims, ofHex_eq_error_iff]
  case gap =>
    rintro text front x inner y back rfl htext hx hy ⟨c, hmem, hblank⟩
    have trims := Blank.trims_trimChars text.toList
    generalize Blank.trimChars text.toList = core at trims
    rw [htext] at trims
    have hcore := trims.mem_of_between (Hex.isBlank_eq_false hx) (Hex.isBlank_eq_false hy) hmem
    rw [← htext] at trims
    refine refused_of_mem_core trims hcore fun hdigit => ?_
    cases hblank.symm.trans (Hex.isBlank_eq_false hdigit)
  case mark =>
    rintro text rfl hmem
    have trims := Blank.trims_trimChars text.toList
    have hnot : ¬ Hex.IsDigit '\uFEFF' := by
      rw [Hex.isDigit_iff]
      decide
    exact refused_of_mem_core trims (trims.mem hmem (by decide)) hnot

/-- Neither the white space around the digits nor their case matters. -/
theorem load_of_same {text text' : String} {core core' : List Char} {i : Identity}
    (trims : Blank.Trims text.toList core) (trims' : Blank.Trims text'.toList core')
    (same : core.map Char.toLower = core'.map Char.toLower)
    (hload : load (.file (Utf8.encode text)) = .ok i) :
    load (.file (Utf8.encode text')) = .ok i := by
  rw [load_of_trims trims, ofHex_eq_ok_iff] at hload
  rw [load_of_trims trims', ofHex_eq_ok_iff]
  have grammar := (keyReading (String.ofList core)).byGrammar
  have grammar' := (keyReading (String.ofList core')).byGrammar
  obtain ⟨hlength, hdigits⟩ := grammar.accepted.1 ⟨_, hload⟩
  rw [← String.length_toList, String.toList_ofList] at hlength
  rw [String.toList_ofList] at hdigits
  -- the other text is made of digits as well, and as many
  have hlength' : (String.ofList core').length = 64 := by
    rw [← String.length_toList, String.toList_ofList, ← List.length_map (f := Char.toLower), ← same,
      List.length_map, hlength]
  have hdigits' : ∀ c ∈ (String.ofList core').toList, Hex.IsDigit c := by
    rw [String.toList_ofList]
    intro c hc
    have hlower : c.toLower ∈ core.map Char.toLower := same ▸ List.mem_map_of_mem hc
    obtain ⟨c', hc', hsame⟩ := List.mem_map.1 hlower
    rw [← Hex.isDigit_toLower_iff, ← hsame, Hex.isDigit_toLower_iff]
    exact hdigits c' hc'
  obtain ⟨k, hk⟩ := grammar'.accepted.2 ⟨hlength', hdigits'⟩
  have hspelled : PublicKey.toHex i.secret = PublicKey.toHex k := by
    rw [grammar.spelled _ hload, grammar'.spelled _ hk, ← String.toList_inj, String.toList_map,
      String.toList_map, String.toList_ofList, String.toList_ofList, same]
  -- what two keys are written as tells them apart
  have hkey := congrArg Key.ofHex hspelled
  rw [ofHex_toHex, ofHex_toHex] at hkey
  rw [hk, hkey]

/-! ## What is saved -/

theorem trims_fileText (i : Identity) :
    Blank.Trims i.fileText.toList (Hex.encodeChars i.secret.bytes) := by
  have hblank : ∀ c ∈ Hex.encodeChars i.secret.bytes, Blank.isBlank c = false :=
    fun c hc => Hex.isBlank_eq_false (Hex.isDigit_of_mem_encodeChars hc)
  constructor
  case split =>
    refine ⟨[], ['\n'], ?_, fun c hc => (List.not_mem_nil hc).elim, ?_⟩
    · rw [fileText, Hex.encode, String.toList_append, String.toList_ofList]
      rfl
    · intro c hc
      rw [List.mem_singleton.1 hc]
      decide
  case first => exact fun c hc => hblank c (List.mem_of_mem_head? hc)
  case last => exact fun c hc => hblank c (List.mem_of_getLast? hc)

theorem load_fileText (i : Identity) : load (.file (Utf8.encode i.fileText)) = .ok i := by
  rw [load_of_trims (trims_fileText i), ofHex_eq_ok_iff]
  exact ofHex_toHex i.secret

end Identity

/-- **Key files are read as they were written, and whatever stands around the key is left out.**  A
    saved identity is loaded as it was, and saving it once more changes nothing.  Every file is read
    by the grammar of key files, and neither the white space around the digits nor their case
    matters. -/
theorem key_files :
    (∀ (i : Identity) (d e : Directory) (path : String), d.write path i.fileText = .ok e →
      e.read path = .file (Utf8.encode i.fileText) ∧
      ∃ loaded, Identity.load (e.read path) = .ok loaded ∧ loaded.secret = i.secret ∧
        (∀ S, loaded.publicKey S = i.publicKey S) ∧ e.write path loaded.fileText = .ok e) ∧
    (∀ b, LoadedByGrammar b (Identity.load (.file b))) ∧
    ∀ (text text' : String) (core core' : List Char), Blank.Trims text.toList core →
      Blank.Trims text'.toList core' → core.map Char.toLower = core'.map Char.toLower →
      ∀ i, Identity.load (.file (Utf8.encode text)) = .ok i ↔
        Identity.load (.file (Utf8.encode text')) = .ok i := by
  refine ⟨fun i d e path written => ?_, Identity.loadedByGrammar,
    fun text text' core core' trims trims' same i => ?_⟩
  · have hread := Directory.read_write written
    refine ⟨hread, i, ?_, rfl, fun S => rfl, Directory.write_write written⟩
    rw [hread]
    exact Identity.load_fileText i
  · exact ⟨Identity.load_of_same trims trims' same, Identity.load_of_same trims' trims same.symm⟩

/-- A key is saved in a directory that holds another file; a file is written in upper case between
    blanks of two kinds. -/
theorem key_files_sample :
    let i : Identity := ⟨Octets.replicate 32 0xAB⟩
    let e : Directory := [("gate.toml", ""), ("gate.key", i.fileText)]
    (∃ loaded, Identity.load (e.read "./gate.key") = .ok loaded ∧ loaded.secret = i.secret ∧
      e.write "./gate.key" loaded.fileText = .ok e) ∧
    Identity.load (.file (Utf8.encode
      ("\t" ++ String.ofList (List.replicate 64 'A') ++ "\u2003"))) =
        .ok ⟨Octets.replicate 32 0xAA⟩ := by
  constructor
  · have written : Directory.write [("gate.toml", ""), ("gate.key", "old")] "./gate.key"
        (Identity.fileText ⟨Octets.replicate 32 0xAB⟩) = .ok [("gate.toml", ""),
          ("gate.key", Identity.fileText ⟨Octets.replicate 32 0xAB⟩)] := by decide +kernel
    obtain ⟨-, loaded, hload, hsecret, -, hagain⟩ := key_files.1 _ _ _ _ written
    exact ⟨loaded, hload, hsecret, hagain⟩
  · refine (key_files.2.2 (Identity.fileText ⟨Octets.replicate 32 0xAA⟩) _ _
      (List.replicate 64 'A') (Identity.trims_fileText _) ?_ (by decide) _).1
        (Identity.load_fileText _)
    refine Blank.trimChars_eq_iff.1 ?_
    decide +kernel

end Gatehouse
