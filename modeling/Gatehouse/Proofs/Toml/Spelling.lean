import Gatehouse.Toml.Value

/-!
# How values are spelled

A string between double quotes can be spelled in many ways: a character may stand for itself, be named
by a letter behind a backslash, or by its code point.  However it is spelled, it is read back, and so
are decimal numbers and the two truth values (`Scalar.read`).
-/

namespace Gatehouse.Toml

open Reader (expect word many)

/-! ## Characters between double quotes -/

/-- The letters behind a backslash that stand for a character, with that character. -/
def letters : List (Char × Char) :=
  [('b', '\x08'), ('t', '\t'), ('n', '\n'), ('f', '\x0c'), ('r', '\r'), ('"', '"'), ('\\', '\\')]

/-- Digits in base sixteen, of either case, that spell the code point of a character. -/
def SpellPoint (c : Char) (digits : List Char) : Prop :=
  ∃ values, digits.map (Digits.value? 16) = values.map some ∧ Digits.toNat 16 values = c.toNat

/-- The ways to spell a character between double quotes. -/
inductive SpellChar (c : Char) : List Char → Prop
  /-- It stands for itself, if it is neither a control character nor one of the two that mean
      something else there. -/
  | plain (quote : c ≠ '"') (backslash : c ≠ '\\')
      (visible : c = '\t' ∨ 32 ≤ c.toNat ∧ c.toNat ≠ 127) : SpellChar c [c]
  | letter (l : Char) (named : (l, c) ∈ letters) : SpellChar c ['\\', l]
  | four (digits : List Char) (count : digits.length = 4) (point : SpellPoint c digits) :
    SpellChar c ('\\' :: 'u' :: digits)
  | eight (digits : List Char) (count : digits.length = 8) (point : SpellPoint c digits) :
    SpellChar c ('\\' :: 'U' :: digits)

theorem isPlain_iff {c : Char} :
    isPlain c = true ↔ c = '\t' ∨ 32 ≤ c.toNat ∧ c.toNat ≠ 127 := by
  have hrange : (' ' ≤ c ∧ c ≤ '~') ↔ 32 ≤ c.toNat ∧ c.toNat ≤ 126 := Iff.rfl
  have hsame : (c = '\t' ∨ 32 ≤ c.toNat ∧ c.toNat ≤ 126) ∨ 128 ≤ c.toNat ↔
      c = '\t' ∨ (32 ≤ c.toNat ∧ c.toNat ≤ 126 ∨ 128 ≤ c.toNat) := or_assoc
  simp only [isPlain, Bool.or_eq_true, Bool.and_eq_true, beq_iff_eq, decide_eq_true_eq, hrange, hsame]
  exact or_congr Iff.rfl (by omega)

theorem takeExactly_append {base : Nat} {digits : List Char} {values : List Nat}
    (h : digits.map (Digits.value? base) = values.map some) (rest : List Char) :
    Digits.takeExactly base digits.length (digits ++ rest) = some (values, rest) := by
  induction digits generalizing values with
  | nil =>
    cases values with
    | nil => rfl
    | cons v values => cases h
  | cons d digits ih =>
    cases values with
    | nil => cases h
    | cons v values =>
      obtain ⟨hd, hrest⟩ := List.cons.inj h
      rw [List.length_cons, List.cons_append, Digits.takeExactly, hd]
      simp only [Option.bind_eq_bind, Option.bind_some, ih hrest]
      rfl

theorem codePoint_append {c : Char} {digits : List Char} (point : SpellPoint c digits)
    (rest : List Char) : codePoint digits.length (digits ++ rest) = some (c, rest) := by
  obtain ⟨values, hvalues, hpoint⟩ := point
  have hvalid : (Digits.toNat 16 values).isValidChar := hpoint ▸ c.valid
  have hchar : (⟨(Digits.toNat 16 values).toUInt32, isValidChar_toUInt32 hvalid⟩ : Char) = c := by
    apply Char.ext
    show (Digits.toNat 16 values).toUInt32 = c.val
    rw [hpoint]
    exact UInt32.ofNat_toNat
  simp only [codePoint, takeExactly_append hvalues, Option.bind_eq_bind, Option.bind_some,
    dif_pos hvalid, hchar]

theorem escaped_of_letter {l c : Char} (named : (l, c) ∈ letters) (rest : List Char) :
    escaped (l :: rest) = some (c, rest) := by
  simp only [letters, List.mem_cons, Prod.mk.injEq, List.not_mem_nil, or_false] at named
  rcases named with ⟨rfl, rfl⟩ | ⟨rfl, rfl⟩ | ⟨rfl, rfl⟩ | ⟨rfl, rfl⟩ | ⟨rfl, rfl⟩ | ⟨rfl, rfl⟩ |
    ⟨rfl, rfl⟩ <;> rfl

/-- A character is read back, however it is spelled and whatever follows. -/
theorem basicChar_append {c : Char} {w : List Char} (h : SpellChar c w) (rest : List Char) :
    basicChar (w ++ rest) = some (c, rest) := by
  cases h with
  | plain quote backslash visible =>
    show (if c = '\\' then escaped rest else _) = _
    rw [if_neg backslash, if_pos ⟨quote, isPlain_iff.2 visible⟩]
    rfl
  | letter l named => exact escaped_of_letter named rest
  | four digits count point =>
    show codePoint 4 (digits ++ rest) = _
    rw [← count, codePoint_append point]
  | eight digits count point =>
    show codePoint 8 (digits ++ rest) = _
    rw [← count, codePoint_append point]

/-- No character is spelled by a quote in front. -/
theorem SpellChar.head {c : Char} {w : List Char} (h : SpellChar c w) :
    ∃ x rest, w = x :: rest ∧ x ≠ '"' := by
  cases h with
  | plain quote backslash visible => exact ⟨c, [], rfl, quote⟩
  | letter l named => exact ⟨_, _, rfl, by decide⟩
  | four digits count point => exact ⟨_, _, rfl, by decide⟩
  | eight digits count point => exact ⟨_, _, rfl, by decide⟩

/-- One way to spell a character: as itself where it may stand for itself. -/
def spellChar (c : Char) : List Char :=
  if c = '"' ∨ c = '\\' then ['\\', c]
  else if isPlain c then [c]
  else ['\\', 'u', '0', '0', Nat.digitChar (c.toNat / 16), Nat.digitChar (c.toNat % 16)]

/-- Two digits in base sixteen spell the code points below 128. -/
theorem digitChar_pairs : ∀ n : Fin 128,
    ['0', '0', Nat.digitChar (n.val / 16), Nat.digitChar (n.val % 16)].map (Digits.value? 16) =
        [0, 0, n.val / 16, n.val % 16].map some ∧
      Digits.toNat 16 [0, 0, n.val / 16, n.val % 16] = n.val := by
  decide

theorem spelled_spellChar (c : Char) : SpellChar c (spellChar c) := by
  rw [spellChar]
  split
  · rename_i h
    rcases h with rfl | rfl <;> exact .letter _ (by decide)
  split
  · rename_i hne hplain
    obtain ⟨quote, backslash⟩ := not_or.1 hne
    exact .plain quote backslash (isPlain_iff.1 hplain)
  · -- only control characters are left
    rename_i hplain
    rw [isPlain_iff] at hplain
    obtain ⟨hvalues, hpoint⟩ := digitChar_pairs ⟨c.toNat, by omega⟩
    exact .four _ rfl ⟨_, hvalues, hpoint⟩

/-! ## Strings -/

/-- A string between double quotes: its characters, each with how it is spelled. -/
def SpellString (s : String) (w : List Char) : Prop :=
  ∃ spelled : List (Char × List Char), (∀ p ∈ spelled, SpellChar p.1 p.2) ∧
    s = String.ofList (spelled.map (·.1)) ∧ w = '"' :: (spelled.flatMap (·.2) ++ ['"'])

theorem string_append {s : String} {w : List Char} (h : SpellString s w) (rest : List Char) :
    string (w ++ '\n' :: rest) = some (s, '\n' :: rest) := by
  obtain ⟨spelled, hspelled, rfl, rfl⟩ := h
  have hmany : many basicChar (spelled.flatMap (·.2) ++ '"' :: '\n' :: rest) =
      (spelled.map (·.1), '"' :: '\n' :: rest) := by
    refine Reader.many_flatMap rfl spelled (fun p hp t => basicChar_append (hspelled p hp) t)
      fun p hp => ?_
    obtain ⟨x, w, hw, -⟩ := (hspelled p hp).head
    rw [hw]
    exact List.cons_ne_nil x w
  have hbasic : basicString ('"' :: (spelled.flatMap (·.2) ++ '"' :: '\n' :: rest)) =
      some (String.ofList (spelled.map (·.1)), '\n' :: rest) := by
    simp only [basicString, expect, if_true, Option.bind_eq_bind, Option.bind_some, hmany]
    rfl
  -- three quotes in a row are only found where a string of several lines begins
  have hlong : longString '"' basicPiece ('"' :: (spelled.flatMap (·.2) ++ '"' :: '\n' :: rest)) =
      none := by
    cases spelled with
    | nil => rfl
    | cons p spelled =>
      obtain ⟨x, w, hw, hx⟩ := (hspelled p List.mem_cons_self).head
      rw [List.flatMap_cons, hw]
      simp [longString, word, expect, hx]
  have hflat : '"' :: (spelled.flatMap (·.2) ++ ['"']) ++ '\n' :: rest =
      '"' :: (spelled.flatMap (·.2) ++ '"' :: '\n' :: rest) := by simp
  rw [hflat, string, hlong, hbasic]
  rfl

/-! ## Numbers -/

/-- The digits of a number: a zero stands in front only if it is the only one. -/
theorem toDigits_spec (n : Nat) : ∃ d ds, Nat.toDigits 10 n = (d :: ds).map Nat.digitChar ∧
    (∀ x ∈ d :: ds, x < 10) ∧ Digits.toNat 10 (d :: ds) = n ∧ (d = 0 → ds = []) := by
  induction n using Nat.strongRecOn with
  | ind n ih =>
    rcases Nat.lt_or_ge n 10 with hlt | hge
    · refine ⟨n, [], Nat.toDigits_of_lt_base hlt, fun x hx => ?_, ?_, fun _ => rfl⟩
      · rwa [List.mem_singleton.1 hx]
      · simp [Digits.toNat]
    · obtain ⟨d, ds, hdigits, hlt, hvalue, hzero⟩ := ih (n / 10) (by omega)
      refine ⟨d, ds ++ [n % 10], ?_, fun x hx => ?_, ?_, fun hd => ?_⟩
      · rw [Nat.toDigits_of_base_le (by decide) hge, hdigits, ← List.cons_append, List.map_append]
        rfl
      · rw [← List.cons_append, List.mem_append] at hx
        rcases hx with hx | hx
        · exact hlt x hx
        · rw [List.mem_singleton.1 hx]
          omega
      · rw [← List.cons_append, Digits.toNat_append, hvalue]
        show n / 10 * 10 + (0 * 10 + n % 10) = n
        omega
      · -- what is left of the number without its last digit would be zero
        rw [hd, hzero hd] at hvalue
        have hsmall : n / 10 = 0 := hvalue.symm
        omega

/-- The digits below ten as characters. -/
theorem digitChar_table {d : Nat} (h : d < 10) : Digits.value? 10 (Nat.digitChar d) = some d ∧
    48 ≤ (Nat.digitChar d).toNat ∧ (Nat.digitChar d).toNat ≤ 57 ∧
    (Nat.digitChar d = '0' → d = 0) := by
  have table : ∀ d : Fin 10, Digits.value? 10 (Nat.digitChar d.val) = some d.val ∧
      48 ≤ (Nat.digitChar d.val).toNat ∧ (Nat.digitChar d.val).toNat ≤ 57 ∧
      (Nat.digitChar d.val = '0' → d.val = 0) := by decide
  exact table ⟨d, h⟩

/-- What is left of a number and the end of its line. -/
def DigitsAhead (cs : List Char) : Prop :=
  ∃ (ds : List Nat) (rest : List Char), (∀ d ∈ ds, d < 10) ∧ cs = ds.map Nat.digitChar ++ '\n' :: rest

section DigitsAhead

variable {cs after : List Char}

/-- Nothing but a digit or the end of the line comes next. -/
theorem DigitsAhead.expect_eq_none {c : Char} (h : DigitsAhead cs)
    (digit : c.toNat < 48 ∨ 57 < c.toNat) (line : c ≠ '\n') : expect c cs = none := by
  obtain ⟨ds, rest, hlt, rfl⟩ := h
  cases ds with
  | nil => exact if_neg line.symm
  | cons d ds =>
    obtain ⟨-, hlow, hhigh, -⟩ := digitChar_table (hlt d List.mem_cons_self)
    refine if_neg fun hsame => ?_
    rw [hsame] at hlow hhigh
    omega

theorem DigitsAhead.word_eq_none {c : Char} (h : DigitsAhead cs) (w : List Char)
    (digit : c.toNat < 48 ∨ 57 < c.toNat) (line : c ≠ '\n') : word (c :: w) cs = none := by
  rw [word, h.expect_eq_none digit line]
  rfl

/-- Behind a digit it goes on with digits, up to the end of the line. -/
theorem DigitsAhead.behind {c : Char} (h : DigitsAhead cs) (line : c ≠ '\n')
    (taken : expect c cs = some after) : DigitsAhead after := by
  obtain ⟨ds, rest, hlt, rfl⟩ := h
  cases ds with
  | nil =>
    have hnone : expect c ('\n' :: rest) = none := if_neg line.symm
    cases hnone.symm.trans taken
  | cons d ds =>
    rw [List.map_cons, List.cons_append, Reader.expect] at taken
    split at taken
    · cases taken
      exact ⟨ds, rest, fun x hx => hlt x (List.mem_cons_of_mem d hx), rfl⟩
    · cases taken

/-- Digits are taken one by one, up to the end of the line. -/
theorem DigitsAhead.takeExactly {count : Nat} {values : List Nat}
    (h : DigitsAhead cs) (taken : Digits.takeExactly 10 count cs = some (values, after)) :
    DigitsAhead after := by
  induction count generalizing cs values with
  | zero =>
    cases taken
    exact h
  | succ count ih =>
    obtain ⟨ds, rest, hlt, rfl⟩ := h
    cases ds with
    | nil => cases taken
    | cons d ds =>
      obtain ⟨hvalue, -⟩ := digitChar_table (hlt d List.mem_cons_self)
      rw [List.map_cons, List.cons_append, Digits.takeExactly, hvalue, Option.bind_eq_bind,
        Option.bind_some] at taken
      obtain ⟨⟨values', after'⟩, hrest, heq⟩ := Option.bind_eq_some_iff.1 taken
      cases heq
      exact ih ⟨ds, rest, fun x hx => hlt x (List.mem_cons_of_mem d hx), rfl⟩ hrest

theorem DigitsAhead.fixedNumber {digits least most n : Nat}
    (h : DigitsAhead cs) (taken : fixedNumber digits least most cs = some (n, after)) :
    DigitsAhead after := by
  obtain ⟨⟨values, after'⟩, hvalues, hbounds⟩ := Option.bind_eq_some_iff.1 taken
  dsimp only at hbounds
  split at hbounds
  · cases hbounds
    exact h.takeExactly hvalues
  · cases hbounds

/-- A number is neither a date nor a time. -/
theorem DigitsAhead.moment_eq_none (h : DigitsAhead cs) : moment cs = none := by
  have hdate : date cs = none := by
    rw [date]
    cases hyear : Toml.fixedNumber 4 0 9999 cs with
    | none => rfl
    | some year =>
      obtain ⟨year, after⟩ := year
      have hnone : expect '-' after = none :=
        (h.fixedNumber hyear).expect_eq_none (.inl (by decide)) (by decide)
      simp only [Option.bind_eq_bind, Option.bind_some, hnone, Option.bind_none]
  have htime : timeOfDay cs = none := by
    rw [timeOfDay]
    cases hhour : Toml.fixedNumber 2 0 23 cs with
    | none => rfl
    | some hour =>
      obtain ⟨hour, after⟩ := hour
      have hnone : expect ':' after = none :=
        (h.fixedNumber hhour).expect_eq_none (.inr (by decide)) (by decide)
      simp only [Option.bind_eq_bind, Option.bind_some, hnone, Option.bind_none]
  rw [moment, hdate]
  exact htime

theorem DigitsAhead.string_eq_none (h : DigitsAhead cs) : string cs = none := by
  have hdouble : word ['"', '"', '"'] cs = none := h.word_eq_none _ (.inl (by decide)) (by decide)
  have hsingle : word ['\'', '\'', '\''] cs = none := h.word_eq_none _ (.inl (by decide)) (by decide)
  have hbasic : expect '"' cs = none := h.expect_eq_none (.inl (by decide)) (by decide)
  have hliteral : expect '\'' cs = none := h.expect_eq_none (.inl (by decide)) (by decide)
  simp only [string, longString, basicString, literalString, hdouble, hsingle, hbasic, hliteral,
    Option.bind_eq_bind, Option.bind_none]
  rfl

theorem DigitsAhead.sign_eq (h : DigitsAhead cs) : sign cs = (false, cs) := by
  refine sign.eq_3 cs (fun rest hsign => ?_) fun rest hsign => ?_
  · have hnone := h.expect_eq_none (c := '+') (.inl (by decide)) (by decide)
    rw [hsign] at hnone
    cases hnone
  · have hnone := h.expect_eq_none (c := '-') (.inl (by decide)) (by decide)
    rw [hsign] at hnone
    cases hnone

theorem DigitsAhead.namedFloat_eq_none (h : DigitsAhead cs) : namedFloat cs = none := by
  have hinf : word "inf".toList cs = none := h.word_eq_none _ (.inr (by decide)) (by decide)
  have hnan : word "nan".toList cs = none := h.word_eq_none _ (.inr (by decide)) (by decide)
  rw [namedFloat, hinf, hnan]
  rfl

theorem DigitsAhead.basedInteger_eq_none (h : DigitsAhead cs) (mark : Char) (base : Nat)
    (letter : 57 < mark.toNat) : basedInteger mark base cs = none := by
  have hline : mark ≠ '\n' := by
    rintro rfl
    exact absurd letter (by decide)
  have hnone : word ['0', mark] cs = none := by
    rw [word]
    cases hzero : expect '0' cs with
    | none => rfl
    | some after => exact (h.behind (by decide) hzero).word_eq_none [] (.inr letter) hline
  simp only [basedInteger, hnone, Option.bind_eq_bind, Option.bind_none]

end DigitsAhead

/-- The digits of a number are read up to the end of the line. -/
theorem decimalDigits_append {d : Nat} {ds : List Nat} (hlt : ∀ x ∈ d :: ds, x < 10)
    (hzero : d = 0 → ds = []) (rest : List Char) :
    decimalDigits ((d :: ds).map Nat.digitChar ++ '\n' :: rest) = some (d :: ds, '\n' :: rest) := by
  obtain ⟨hvalue, -, -, hchar⟩ := digitChar_table (hlt d List.mem_cons_self)
  have hmany : many (laterDigit 10) (ds.flatMap (fun x => [Nat.digitChar x]) ++ '\n' :: rest) =
      (ds.map id, '\n' :: rest) := by
    refine Reader.many_flatMap rfl ds (fun x hx t => ?_) fun x _ => List.cons_ne_nil _ _
    obtain ⟨hx, hlow, -, -⟩ := digitChar_table (hlt x (List.mem_cons_of_mem d hx))
    have hne : Nat.digitChar x ≠ '_' := by
      intro h
      rw [h] at hx
      cases hx
    show (if Nat.digitChar x = '_' then _ else (Digits.value? 10 (Nat.digitChar x)).map _) = _
    rw [if_neg hne, hx]
    rfl
  rw [List.map_id, ← List.map_eq_flatMap] at hmany
  rw [List.map_cons, List.cons_append]
  by_cases hd : d = 0
  · rw [hd, hzero hd]
    rfl
  · have hne : Nat.digitChar d ≠ '0' := fun h => hd (hchar h)
    rw [decimalDigits]
    · rw [digitRun, hvalue]
      simp only [Option.bind_eq_bind, Option.bind_some, hmany]
      rfl
    · intro rest' h
      exact hne (List.cons.inj h).1

/-- The largest number that a document can hold. -/
def largestInteger : Nat := Int64.maxValue.toInt.toNat

section Decimal

variable {cs rest : List Char} {ds : List Nat}

/-- Digits alone are no number with a fraction or an exponent. -/
theorem float_eq_none (ahead : DigitsAhead cs) (h : decimalDigits cs = some (ds, '\n' :: rest)) :
    float cs = none := by
  have hfraction : fraction ('\n' :: rest) = none := rfl
  have hexponent : exponent ('\n' :: rest) = none := rfl
  simp only [float, ahead.sign_eq, h, hfraction, hexponent, Option.bind_eq_bind, Option.bind_some,
    Option.map_none, Option.bind_none, ahead.namedFloat_eq_none]
  rfl

theorem integer_of_digits (ahead : DigitsAhead cs)
    (h : decimalDigits cs = some (ds, '\n' :: rest))
    (fits : Digits.toNat 10 ds ≤ largestInteger) :
    integer cs = some (Int.ofNat (Digits.toNat 10 ds), '\n' :: rest) := by
  have hdecimal : decimalInteger cs = some (Int.ofNat (Digits.toNat 10 ds), '\n' :: rest) := by
    simp only [decimalInteger, ahead.sign_eq, h, Option.bind_eq_bind, Option.bind_some]
    rfl
  have hfits : fits64 (Int.ofNat (Digits.toNat 10 ds)) = true := by
    have hleast : Int64.minValue.toInt ≤ 0 := by decide
    have hmost : 0 ≤ Int64.maxValue.toInt := by decide
    rw [largestInteger] at fits
    rw [fits64, Bool.and_eq_true, decide_eq_true_iff, decide_eq_true_iff]
    show _ ≤ (Digits.toNat 10 ds : Int) ∧ (Digits.toNat 10 ds : Int) ≤ _
    omega
  rw [integer, ahead.basedInteger_eq_none 'x' 16 (by decide),
    ahead.basedInteger_eq_none 'o' 8 (by decide), ahead.basedInteger_eq_none 'b' 2 (by decide),
    hdecimal]
  exact Option.filter_some_pos hfits

end Decimal

/-- A number that fits is read as an integer, and as nothing else. -/
theorem scalar_of_integer {n : Nat} (fits : n ≤ largestInteger) (rest : List Char) :
    scalar ((Nat.repr n).toList ++ '\n' :: rest) = some (.integer (Int.ofNat n), '\n' :: rest) := by
  obtain ⟨d, ds, hdigits, hlt, rfl, hzero⟩ := toDigits_spec n
  have hread := decimalDigits_append hlt hzero rest
  have ahead : DigitsAhead ((d :: ds).map Nat.digitChar ++ '\n' :: rest) := ⟨d :: ds, rest, hlt, rfl⟩
  have htrue := ahead.word_eq_none ['r', 'u', 'e'] (c := 't') (.inr (by decide)) (by decide)
  have hfalse := ahead.word_eq_none ['a', 'l', 's', 'e'] (c := 'f') (.inr (by decide)) (by decide)
  rw [Nat.toList_repr, hdigits, scalar, ahead.string_eq_none, ahead.moment_eq_none,
    float_eq_none ahead hread, integer_of_digits ahead hread fits]
  show (none <|> Option.map _ (word ['t', 'r', 'u', 'e'] _) <|>
    Option.map _ (word ['f', 'a', 'l', 's', 'e'] _) <|> _) = _
  rw [htrue, hfalse]
  rfl

/-! ## Values without parts -/

/-- A value without parts. -/
inductive Scalar
  | string (s : String)
  | integer (n : Nat)
  | boolean (b : Bool)
deriving DecidableEq

namespace Scalar

/-- The value in the tree of a document. -/
def node : Scalar → Node
  | string s => .string s
  | integer n => .integer (Int.ofNat n)
  | boolean b => .boolean b

/-- Is the value spelled like this?  Numbers are decimal and have to fit 64 bits with a sign. -/
def Spelled : Scalar → List Char → Prop
  | string s, w => SpellString s w
  | integer n, w => w = (Nat.repr n).toList ∧ n ≤ largestInteger
  | boolean b, w => w = (if b then "true" else "false").toList

/-- One way to spell a value. -/
def spell : Scalar → List Char
  | string s => '"' :: (s.toList.flatMap spellChar ++ ['"'])
  | integer n => (Nat.repr n).toList
  | boolean b => (if b then "true" else "false").toList

theorem spelled_spell {v : Scalar} (fits : ∀ n, v = integer n → n ≤ largestInteger) :
    v.Spelled v.spell := by
  cases v with
  | string s =>
    refine ⟨s.toList.map fun c => (c, spellChar c), fun p hp => ?_, ?_, ?_⟩
    · obtain ⟨c, -, rfl⟩ := List.mem_map.1 hp
      exact spelled_spellChar c
    · rw [List.map_map]
      exact (String.ofList_toList.symm.trans (congrArg String.ofList (List.map_id _).symm))
    · rw [List.flatMap_map]
      rfl
  | integer n => exact ⟨rfl, fits n rfl⟩
  | boolean b => rfl

/-- A value is read back, however it is spelled, up to the end of its line. -/
theorem read {v : Scalar} {w : List Char} (h : v.Spelled w) (depth : Nat) (rest : List Char) :
    value depth (w ++ '\n' :: rest) = some (v.node, '\n' :: rest) := by
  have hscalar : Toml.scalar (w ++ '\n' :: rest) = some (v.node, '\n' :: rest) := by
    cases v with
    | string s =>
      rw [scalar, string_append h]
      rfl
    | integer n =>
      obtain ⟨rfl, hfits⟩ := h
      exact scalar_of_integer hfits rest
    | boolean b =>
      obtain rfl := h
      cases b <;> rfl
  cases depth with
  | zero => exact hscalar
  | succ depth =>
    show (Toml.scalar (w ++ '\n' :: rest) <|> _) = _
    rw [hscalar]
    rfl

/-- No value is spelled with a blank in front. -/
theorem front {v : Scalar} {w : List Char} (h : v.Spelled w) : ∀ c ∈ w.head?, isGap c = false := by
  intro c hc
  cases v with
  | string s =>
    obtain ⟨spelled, -, -, rfl⟩ := h
    cases hc
    decide
  | integer n =>
    obtain ⟨rfl, -⟩ := h
    obtain ⟨d, ds, hdigits, hlt, -⟩ := toDigits_spec n
    rw [Nat.toList_repr, hdigits] at hc
    cases hc
    obtain ⟨-, hlow, -⟩ := digitChar_table (hlt d List.mem_cons_self)
    rw [isGap, Bool.or_eq_false_iff, beq_eq_false_iff_ne, beq_eq_false_iff_ne]
    constructor <;>
    · intro h
      rw [h] at hlow
      exact absurd hlow (by decide)
  | boolean b =>
    obtain rfl := h
    cases b <;> cases hc <;> decide

end Scalar

end Gatehouse.Toml
