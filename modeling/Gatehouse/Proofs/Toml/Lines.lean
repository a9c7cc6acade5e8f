import Gatehouse.Toml.Document

/-!
# Documents line by line

A line is read for itself if it says the same whatever follows it (`Reads`); a document that is made of
such lines says what they say, in their order (`statements?_of_reads`).  Headers and keys with their
values, where the names are bare, are such lines.
-/

namespace Gatehouse.Toml

open Reader (expect word satisfying many)

/-! ## Keys -/

/-- A name that needs no quotes. -/
def IsBare (name : List Char) : Prop := name ≠ [] ∧ name.all isBareKeyChar = true

instance (name : List Char) : Decidable (IsBare name) := inferInstanceAs (Decidable (_ ∧ _ = true))

/-- The names of a dotted key behind the first. -/
def dotted (names : List (List Char)) : List Char := names.flatMap ('.' :: ·)

/-- The parts of a dotted key. -/
def parts (first : List Char) (others : List (List Char)) : List String :=
  (first :: others).map String.ofList

section Keys

variable {name : List Char}

theorem IsBare.head (bare : IsBare name) :
    ∃ c rest, name = c :: rest ∧ ∀ x, isBareKeyChar x = false → c ≠ x := by
  obtain ⟨hne, hbare⟩ := bare
  cases name with
  | nil => exact absurd rfl hne
  | cons c rest =>
    refine ⟨c, rest, rfl, ?_⟩
    rintro x hx rfl
    cases hx.symm.trans (List.all_eq_true.1 hbare c List.mem_cons_self)

theorem IsBare.expect_eq_none (bare : IsBare name) {x : Char} (hx : isBareKeyChar x = false)
    (t : List Char) : expect x (name ++ t) = none := by
  obtain ⟨c, rest, rfl, hne⟩ := bare.head
  exact if_neg (hne x hx)

theorem isGap_of_ne {c : Char} (hne : ∀ x, isBareKeyChar x = false → c ≠ x) : isGap c = false := by
  rw [isGap, Bool.or_eq_false_iff]
  exact ⟨beq_false_of_ne (hne ' ' (by decide)), beq_false_of_ne (hne '\t' (by decide))⟩

theorem skipGap_cons {c : Char} (h : isGap c = false) (t : List Char) :
    skipGap (c :: t) = c :: t :=
  List.dropWhile_cons_of_neg (by rw [h]; exact Bool.false_ne_true)

theorem IsBare.skipGap_append (bare : IsBare name) (t : List Char) :
    skipGap (name ++ t) = name ++ t := by
  obtain ⟨c, rest, rfl, hne⟩ := bare.head
  exact skipGap_cons (isGap_of_ne hne) (rest ++ t)

/-- A bare name is read up to the first character that does not belong to it. -/
theorem IsBare.spacedKeyPart_append (bare : IsBare name) {t : List Char}
    (stop : ∀ c ∈ t.head?, isBareKeyChar c = false) :
    spacedKeyPart (name ++ t) = some (String.ofList name, skipGap t) := by
  have hmany : many (satisfying isBareKeyChar) (name.flatMap ([·]) ++ t) = (name.map id, t) := by
    refine Reader.many_flatMap ?_ name (fun x hx t => if_pos (List.all_eq_true.1 bare.2 x hx))
      fun x _ => List.cons_ne_nil x []
    cases t with
    | nil => rfl
    | cons x t =>
      refine if_neg ?_
      rw [stop x rfl]
      exact Bool.false_ne_true
  rw [List.flatMap_singleton', List.map_id] at hmany
  have hpart : keyPart (name ++ t) = some (String.ofList name, t) := by
    simp only [keyPart, basicString, literalString, bare.expect_eq_none (x := '"') (by decide),
      bare.expect_eq_none (x := '\'') (by decide), Option.bind_eq_bind, Option.bind_none, hmany]
    cases name with
    | nil => exact absurd rfl bare.1
    | cons c rest => rfl
  rw [spacedKeyPart, bare.skipGap_append, hpart]
  rfl

/-- The parts behind the first are read one after another. -/
theorem many_dotted {others : List (List Char)} (bare : ∀ name ∈ others, IsBare name)
    {t : List Char} (stop : ∀ c ∈ t.head?, isBareKeyChar c = false)
    (last : expect '.' (skipGap t) = none) :
    many (fun cs => (expect '.' cs).bind spacedKeyPart) (skipGap (dotted others ++ t)) =
      (others.map String.ofList, skipGap t) := by
  induction others with
  | nil =>
    refine Reader.many_of_none ?_
    rw [dotted, List.flatMap_nil, List.nil_append, last]
    rfl
  | cons name others ih =>
    have hmore : skipGap (dotted (name :: others) ++ t) = '.' :: (name ++ (dotted others ++ t)) := by
      rw [dotted, List.flatMap_cons, List.cons_append, List.cons_append, List.append_assoc]
      exact skipGap_cons (by decide) _
    have hstop : ∀ c ∈ (dotted others ++ t).head?, isBareKeyChar c = false := by
      cases others with
      | nil => exact stop
      | cons name' others =>
        intro c hc
        cases hc
        decide
    have hread : (expect '.' ('.' :: (name ++ (dotted others ++ t)))).bind spacedKeyPart =
        some (String.ofList name, skipGap (dotted others ++ t)) := by
      rw [expect, if_pos rfl, Option.bind_some]
      exact (bare name List.mem_cons_self).spacedKeyPart_append hstop
    have hshorter : (skipGap (dotted others ++ t)).length <
        ('.' :: (name ++ (dotted others ++ t))).length := by
      have hle := (List.dropWhile_sublist isGap (l := dotted others ++ t)).length_le
      rw [List.length_cons, List.length_append]
      exact Nat.lt_of_le_of_lt hle (by omega)
    rw [hmore, Reader.many_cons hread hshorter, ih fun n hn => bare n (List.mem_cons_of_mem name hn)]
    rfl

theorem key_append {first : List Char} {others : List (List Char)} (hfirst : IsBare first)
    (hothers : ∀ name ∈ others, IsBare name) (few : others.length + 1 < depthLimit)
    {t : List Char} (stop : ∀ c ∈ t.head?, isBareKeyChar c = false)
    (last : expect '.' (skipGap t) = none) :
    key (first ++ (dotted others ++ t)) =
      some (((parts first others).dropLast, (parts first others).getLast (List.cons_ne_nil _ _)),
        skipGap t) := by
  have hstop : ∀ c ∈ (dotted others ++ t).head?, isBareKeyChar c = false := by
    cases others with
    | nil => exact stop
    | cons name others =>
      intro c hc
      cases hc
      decide
  have hfew : ¬ depthLimit ≤ (String.ofList first :: others.map String.ofList).length := by
    rw [List.length_cons, List.length_map]
    omega
  simp only [key, hfirst.spacedKeyPart_append hstop, many_dotted hothers stop last,
    Option.bind_eq_bind, Option.bind_some, if_neg hfew]
  rfl

end Keys

/-! ## Lines -/

/-- The text is a line that says this, whatever follows it. -/
def Reads (text : List Char) (said : Option Statement) : Prop :=
  ∀ rest, line (text ++ rest) = some (said, rest)

/-- A line that is neither blank nor a comment is a statement. -/
theorem line_cons {c : Char} (hgap : isGap c = false) (hother : c ≠ '#' ∧ c ≠ '\n' ∧ c ≠ '\r')
    (t : List Char) : line (c :: t) = (statement (c :: t)).map fun (s, rest) => (some s, rest) := by
  have hnone : ¬ (decide (c = '#') || decide (c = '\n') || decide (c = '\r')) = true := by
    simp only [Bool.or_eq_true, decide_eq_true_eq, not_or]
    exact ⟨⟨hother.1, hother.2.1⟩, hother.2.2⟩
  rw [line, skipGap_cons hgap]
  dsimp only
  rw [if_neg hnone]

/-- A statement without a bracket in front is a key with its value. -/
theorem statement_cons {c : Char} (hc : c ≠ '[') (t : List Char) : statement (c :: t) =
    (keyValue (value (depthLimit - 1)) (c :: t)).bind fun (((path, key), node), cs) =>
      (lineEnd cs).bind fun rest => some (.entry path key node, rest) := by
  rw [statement]
  · rfl
  · intro t' h
    exact hc (List.cons.inj h).1
  · intro t' h
    exact hc (List.cons.inj h).1

section Lines

variable {first : List Char} {others : List (List Char)}

theorem reads_header (hfirst : IsBare first) (hothers : ∀ name ∈ others, IsBare name)
    (few : others.length + 1 < depthLimit) :
    Reads ('[' :: (first ++ (dotted others ++ [']', '\n']))) (some (.header
      (parts first others).dropLast ((parts first others).getLast (List.cons_ne_nil _ _)))) := by
  intro rest
  have hkey := key_append hfirst hothers few (t := ']' :: '\n' :: rest)
    (fun c hc => by cases hc; decide) rfl
  have hheader : header ['['] [']'] ('[' :: (first ++ (dotted others ++ ']' :: '\n' :: rest))) =
      some (((parts first others).dropLast, (parts first others).getLast (List.cons_ne_nil _ _)),
        rest) := by
    have hopen : word ['['] ('[' :: (first ++ (dotted others ++ ']' :: '\n' :: rest))) =
        some (first ++ (dotted others ++ ']' :: '\n' :: rest)) := rfl
    simp only [header, hopen, hkey, Option.bind_eq_bind, Option.bind_some]
    rfl
  have htext : '[' :: (first ++ (dotted others ++ [']', '\n'])) ++ rest =
      '[' :: (first ++ (dotted others ++ ']' :: '\n' :: rest)) := by simp
  rw [htext, line_cons (by decide) (by decide)]
  obtain ⟨c, tail, rfl, hne⟩ := hfirst.head
  rw [statement, hheader]
  · rfl
  · -- a name does not begin with another bracket
    intro t h
    exact hne '[' (by decide) (List.cons.inj h).1

theorem reads_entry (hfirst : IsBare first) (hothers : ∀ name ∈ others, IsBare name)
    (few : others.length + 1 < depthLimit) {w : List Char} {node : Node}
    (hvalue : ∀ rest, value (depthLimit - 1) (w ++ '\n' :: rest) = some (node, '\n' :: rest))
    (front : ∀ c ∈ w.head?, isGap c = false) :
    Reads (first ++ (dotted others ++ ' ' :: '=' :: ' ' :: (w ++ ['\n']))) (some (.entry
      (parts first others).dropLast ((parts first others).getLast (List.cons_ne_nil _ _)) node)) := by
  intro rest
  have hkey := key_append hfirst hothers few (t := ' ' :: '=' :: ' ' :: (w ++ '\n' :: rest))
    (fun c hc => by cases hc; decide) rfl
  have hgap : skipGap (' ' :: (w ++ '\n' :: rest)) = w ++ '\n' :: rest := by
    show skipGap (w ++ '\n' :: rest) = _
    cases w with
    | nil => rfl
    | cons c w => exact skipGap_cons (front c rfl) _
  have hequals : expect '=' (skipGap (' ' :: '=' :: ' ' :: (w ++ '\n' :: rest))) =
      some (' ' :: (w ++ '\n' :: rest)) := rfl
  have hentry : keyValue (value (depthLimit - 1))
      (first ++ (dotted others ++ ' ' :: '=' :: ' ' :: (w ++ '\n' :: rest))) =
      some ((((parts first others).dropLast, (parts first others).getLast (List.cons_ne_nil _ _)),
        node), '\n' :: rest) := by
    simp only [keyValue, hkey, hequals, hgap, hvalue, Option.bind_eq_bind, Option.bind_some]
    rfl
  have htext : first ++ (dotted others ++ ' ' :: '=' :: ' ' :: (w ++ ['\n'])) ++ rest =
      first ++ (dotted others ++ ' ' :: '=' :: ' ' :: (w ++ '\n' :: rest)) := by simp
  rw [htext]
  obtain ⟨c, tail, rfl, hne⟩ := hfirst.head
  rw [List.cons_append] at hentry ⊢
  rw [line_cons (isGap_of_ne hne)
    ⟨hne '#' (by decide), hne '\n' (by decide), hne '\r' (by decide)⟩,
    statement_cons (hne '[' (by decide)), hentry]
  rfl

/-- The header of a table in the document itself. -/
theorem reads_tableHeader {name : String} (bare : IsBare name.toList) :
    Reads ('[' :: (name.toList ++ [']', '\n'])) (some (.header [] name)) := by
  have hnone : ∀ name ∈ ([] : List (List Char)), IsBare name := List.forall_mem_nil IsBare
  have h : Reads ('[' :: (name.toList ++ [']', '\n'])) (some (.header [] (String.ofList name.toList))) :=
    reads_header bare hnone (by decide)
  rwa [String.ofList_toList] at h

/-- A key of one part with its value. -/
theorem reads_keyValue {name : String} (bare : IsBare name.toList) {w : List Char} {node : Node}
    (hvalue : ∀ rest, value (depthLimit - 1) (w ++ '\n' :: rest) = some (node, '\n' :: rest))
    (front : ∀ c ∈ w.head?, isGap c = false) :
    Reads (name.toList ++ ' ' :: '=' :: ' ' :: (w ++ ['\n'])) (some (.entry [] name node)) := by
  have hnone : ∀ name ∈ ([] : List (List Char)), IsBare name := List.forall_mem_nil IsBare
  have h : Reads (name.toList ++ ' ' :: '=' :: ' ' :: (w ++ ['\n']))
      (some (.entry [] (String.ofList name.toList) node)) :=
    reads_entry bare hnone (by decide) hvalue front
  rwa [String.ofList_toList] at h

/-- A comment on a line of its own says nothing. -/
theorem reads_comment {text : List Char} (plain : text.all isPlain = true) :
    Reads ('#' :: (text ++ ['\n'])) none := by
  intro rest
  have hcomment : comment ('#' :: (text ++ '\n' :: rest)) = some ('\n' :: rest) := by
    rw [comment, List.dropWhile_append_of_pos (List.all_eq_true.1 plain)]
    rfl
  have hend : lineEnd ('#' :: (text ++ '\n' :: rest)) = some rest := by
    rw [lineEnd, skipGap_cons (by decide), hcomment]
    rfl
  have htext : '#' :: (text ++ ['\n']) ++ rest = '#' :: (text ++ '\n' :: rest) := by simp
  rw [htext]
  show (lineEnd ('#' :: (text ++ '\n' :: rest))).map _ = _
  rw [hend]
  rfl

end Lines

/-! ## Documents -/

/-- No line begins with a byte order mark, and none is empty. -/
theorem Reads.head {w : List Char} {said : Option Statement} (reads : Reads w said) :
    ∃ c rest, w = c :: rest ∧ c ≠ '\uFEFF' := by
  have hread := reads []
  rw [List.append_nil] at hread
  cases w with
  | nil => cases hread
  | cons c rest =>
    refine ⟨c, rest, rfl, ?_⟩
    rintro rfl
    have hmany : many (satisfying isBareKeyChar) ('\uFEFF' :: rest) = ([], '\uFEFF' :: rest) :=
      Reader.many_of_none rfl
    have hkey : keyValue (value (depthLimit - 1)) ('\uFEFF' :: rest) = none := by
      have hpart : keyPart ('\uFEFF' :: rest) = none := by
        rw [keyPart, hmany]
        rfl
      have hspaced : spacedKeyPart ('\uFEFF' :: rest) = none := by
        rw [spacedKeyPart, skipGap_cons (by decide), hpart]
        rfl
      rw [keyValue, key, hspaced]
      rfl
    rw [line_cons (by decide) (by decide), statement_cons (by decide), hkey] at hread
    cases hread

/-- A document says what its lines say, in their order. -/
theorem statements?_of_reads {α : Type} {write : α → List Char} {said : α → Option Statement}
    (lines : List α) (reads : ∀ l ∈ lines, Reads (write l) (said l)) :
    statements? (lines.flatMap write) = some (lines.filterMap said) := by
  have hmany : many line (lines.flatMap write ++ []) = (lines.map said, []) := by
    refine Reader.many_flatMap rfl lines (fun l hl t => reads l hl t) fun l hl => ?_
    obtain ⟨c, rest, hw, -⟩ := (reads l hl).head
    rw [hw]
    exact List.cons_ne_nil c rest
  have hmark : (expect '\uFEFF' (lines.flatMap write)).getD (lines.flatMap write) =
      lines.flatMap write := by
    cases lines with
    | nil => rfl
    | cons l lines =>
      obtain ⟨c, rest, hw, hc⟩ := (reads l List.mem_cons_self).head
      rw [List.flatMap_cons, hw, List.cons_append, expect, if_neg hc]
      rfl
  rw [List.append_nil] at hmany
  have hdone : skipGap [] = [] := rfl
  simp only [statements?, hmark, hmany, hdone, if_true, List.filterMap_map]
  rfl

end Gatehouse.Toml
