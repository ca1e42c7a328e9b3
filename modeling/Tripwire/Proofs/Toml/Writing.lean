/-
Plain documents, and that they are read as they were written.

A plain document is a list of lines: headers of tables, keys with their values, and
blank lines.  The keys are bare, and a value is a string, a number or a truth value.
A string is written between double quotes.  What cannot stand there for itself is
written with a backslash and a letter, or with its code point in hexadecimal, and a
writer may do the latter with any other character as well.

Each piece is followed by a character that cannot belong to it, a quote or the end of
the line, so its reader stops where the writer did.  The readers of the other kinds of
values all have to give up before that: a number is written with digits only, and a date
or a float would need something else at the place where the line ends.  Then a line is
read as the statement that it makes, and a document as its statements in order,
`statements?_writeLines`.
-/
import Mathlib.Tactic.Ring
import Tripwire.Toml.Document

namespace Tripwire.Toml

/-! ### Writing -/

/-- The last so many hexadecimal digits of a number. -/
def hexDigits : Nat → Nat → List Char
  | 0, _ => []
  | width + 1, n => hexDigits width (n / 16) ++ [Nat.digitChar (n % 16)]

/-- A character by its code point. -/
def writeCode (c : Char) : List Char :=
  if c.toNat < 0x10000 then '\\' :: 'u' :: hexDigits 4 c.toNat
  else '\\' :: 'U' :: hexDigits 8 c.toNat

/-- The letter that stands for a character behind a backslash. -/
def letter? : Char → Option Char
  | '\x08' => some 'b'
  | '\t' => some 't'
  | '\n' => some 'n'
  | '\x0c' => some 'f'
  | '\r' => some 'r'
  | '"' => some '"'
  | '\\' => some '\\'
  | _ => none

/-- A character between double quotes; the flag says that it is written by its code point also if it
need not be. -/
def writeChar (coded : Bool) (c : Char) : List Char :=
  if coded then writeCode c
  else
    match letter? c with
    | some l => ['\\', l]
    | none => if c.toNat < 0x20 ∨ c.toNat = 0x7f then writeCode c else [c]

/-- A value of a plain document. -/
inductive Scalar where
  | text (s : String)
  | number (n : Nat)
  | truth (b : Bool)

/-- The value as a document has it. -/
def Scalar.value : Scalar → Value
  | text s => .string s
  | number n => .integer n
  | truth b => .boolean b

/-- The value can be an integer if it is a number. -/
def Scalar.Fits : Scalar → Prop
  | number n => n < Nat.pow 2 63
  | _ => True

/-- The value as it is written. -/
def Scalar.write (coded : Char → Bool) : Scalar → List Char
  | text s => '"' :: s.toList.flatMap (fun c => writeChar (coded c) c) ++ ['"']
  | number n => Nat.toDigits 10 n
  | truth true => ['t', 'r', 'u', 'e']
  | truth false => ['f', 'a', 'l', 's', 'e']

/-- A line of a plain document. -/
inductive Line where
  | header (name : String)
  | entry (key : String) (v : Scalar)
  | blank

/-- The statement that the line makes, if it is not blank. -/
def Line.statement? : Line → Option Statement
  | header name => some (.table ⟨[], name⟩)
  | entry key v => some (.assign ⟨[], key⟩ v.value)
  | blank => none

/-- The line with its end. -/
def Line.write (coded : Char → Bool) : Line → List Char
  | header name => '[' :: name.toList ++ [']', '\n']
  | entry key v => key.toList ++ [' ', '=', ' '] ++ v.write coded ++ ['\n']
  | blank => ['\n']

/-- The name can be written without quotes. -/
def IsBareName (name : String) : Prop := name.toList ≠ [] ∧ ∀ c ∈ name.toList, isBare c = true

/-- The names in the line are bare, and its number is an integer. -/
def Line.Plain : Line → Prop
  | header name => IsBareName name
  | entry key v => IsBareName key ∧ v.Fits
  | blank => True

/-- Lines one after the other. -/
def writeLines (coded : Char → Bool) (lines : List Line) : List Char :=
  lines.flatMap (Line.write coded)

/-! ### Strings -/

/-- Hexadecimal digits add the number that they spell to what stands before them. -/
theorem foldlM_hexDigits (width : Nat) : ∀ (n m : Nat), n < 16 ^ width →
    (hexDigits width n).foldlM (fun n d => (Text.hexDigit? d).map (n * 16 + ·)) m
      = some (m * 16 ^ width + n) := by
  induction width with
  | zero =>
      intro n m h
      obtain rfl : n = 0 := by simpa using h
      simp [hexDigits]
  | succ width ih =>
      intro n m h
      have front := ih (n / 16) m (by rw [Nat.pow_succ] at h; omega)
      have last := Text.hexDigit?_digitChar (Nat.mod_lt n (show 0 < 16 by omega))
      have sum : (m * 16 ^ width + n / 16) * 16 + n % 16 = m * 16 ^ (width + 1) + n := by
        have power : m * 16 ^ (width + 1) = m * 16 ^ width * 16 := by ring
        omega
      simp [hexDigits, front, last, sum]

theorem hexChar?_hexDigits (width : Nat) {c : Char} (h : c.toNat < 16 ^ width) :
    Text.hexChar? (hexDigits width c.toNat) = some c := by
  have digits := foldlM_hexDigits width c.toNat 0 h
  have valid : c.toNat.isValidChar := c.valid
  simp [Text.hexChar?, digits, valid]

theorem basic?_writeCode (c : Char) (s : List Char) :
    basic? (writeCode c ++ s) = push c (basic? s) := by
  unfold writeCode
  split
  · have hex := hexChar?_hexDigits 4 (c := c) (by omega)
    show (Text.hexChar? (hexDigits 4 c.toNat)).bind (fun x => push x (basic? s)) = _
    rw [hex]
    rfl
  · have code : c.toNat < 0xd800 ∨ 0xdfff < c.toNat ∧ c.toNat < 0x110000 := c.valid
    have hex := hexChar?_hexDigits 8 (c := c) (by omega)
    show (Text.hexChar? (hexDigits 8 c.toNat)).bind (fun x => push x (basic? s)) = _
    rw [hex]
    rfl

/-- A letter is read as the character that it stands for. -/
theorem basic?_letter {c l : Char} (h : letter? c = some l) (s : List Char) :
    basic? ('\\' :: l :: s) = push c (basic? s) := by
  unfold letter? at h
  split at h <;> cases h
  all_goals rfl

/-- A character that is written is read. -/
theorem basic?_writeChar (coded : Bool) (c : Char) (s : List Char) :
    basic? (writeChar coded c ++ s) = push c (basic? s) := by
  unfold writeChar
  by_cases hcoded : coded = true
  · rw [if_pos hcoded]
    exact basic?_writeCode c s
  rw [if_neg hcoded]
  cases hletter : letter? c with
  | some l => exact basic?_letter hletter s
  | none =>
      have quote : c ≠ '"' := by
        rintro rfl
        simp [letter?] at hletter
      have backslash : c ≠ '\\' := by
        rintro rfl
        simp [letter?] at hletter
      dsimp only
      by_cases control : c.toNat < 0x20 ∨ c.toNat = 0x7f
      · rw [if_pos control]
        exact basic?_writeCode c s
      · have own : isBasic c = true := by
          simp [isBasic, isPrintable, quote, backslash]
          omega
        rw [if_neg control, List.singleton_append, basic?, if_pos own]
        all_goals simp [quote, backslash]

theorem basic?_writeChars (coded : Char → Bool) (s rest : List Char) :
    basic? (s.flatMap (fun c => writeChar (coded c) c) ++ '"' :: rest) = some (s, rest) := by
  induction s with
  | nil => rfl
  | cons c s ih =>
      rw [List.flatMap_cons, List.append_assoc, basic?_writeChar, ih]
      rfl

/-! ### Numbers -/

/-- What follows is digits up to the end of the line. -/
def DigitsEnd (s : List Char) : Prop :=
  ∃ ds rest, (∀ d ∈ ds, isDigit d = true) ∧ s = ds ++ '\n' :: rest

theorem isDigit_of_isDigit {c : Char} (h : c.isDigit = true) : isDigit c = true := by
  simpa [Char.isDigit, isDigit, Char.le_def] using h

theorem isDigit_of_mem_toDigits {n : Nat} {d : Char} (h : d ∈ Nat.toDigits 10 n) :
    isDigit d = true :=
  isDigit_of_isDigit (Nat.isDigit_of_mem_toDigits (by omega) (by omega) h)

/-- No other character than a digit can be read where digits end the line. -/
theorem after?_of_digitsEnd {c : Char} (hc : isDigit c = false) (hn : c ≠ '\n') {s : List Char}
    (h : DigitsEnd s) : after? c s = none := by
  obtain ⟨ds, rest, digits, rfl⟩ := h
  cases ds with
  | nil => simp [after?, hn]
  | cons d ds =>
      have hd := digits d List.mem_cons_self
      have other : c ≠ d := by
        rintro rfl
        simp [hc] at hd
      simp [after?, other]

theorem digitsEnd_of_fixed? {k : Nat} : ∀ {s : List Char} {r : Nat × List Char},
    DigitsEnd s → fixed? k s = some r → DigitsEnd r.2 := by
  induction k with
  | zero =>
      intro s r h hr
      simp only [fixed?, Option.some.injEq] at hr
      exact hr ▸ h
  | succ k ih =>
      intro s r h hr
      obtain ⟨ds, rest, digits, rfl⟩ := h
      cases ds with
      | nil => simp [fixed?, isDigit] at hr
      | cons d ds =>
          rw [List.cons_append, fixed?, if_pos (digits d List.mem_cons_self)] at hr
          cases hfixed : fixed? k (ds ++ '\n' :: rest) with
          | none => simp [hfixed] at hr
          | some r' =>
              have tail := ih ⟨ds, rest, fun d h => digits d (List.mem_cons_of_mem _ h), rfl⟩ hfixed
              simp only [hfixed, Option.bind_eq_bind, Option.bind_some, Option.some.injEq] at hr
              rw [← hr]
              exact tail

theorem digitsEnd_of_pair? {low high : Nat} {s : List Char} {r : Nat × List Char}
    (h : DigitsEnd s) (hr : pair? low high s = some r) : DigitsEnd r.2 := by
  unfold pair? at hr
  cases hfixed : fixed? 2 s with
  | none => simp [hfixed] at hr
  | some r' =>
      obtain ⟨n, rest⟩ := r'
      by_cases range : low ≤ n ∧ n ≤ high
      · have same : (n, rest) = r := by simpa [hfixed, range] using hr
        exact same ▸ digitsEnd_of_fixed? h hfixed
      · simp [hfixed, range] at hr

/-- Digits up to the end of the line are no date and no time of day. -/
theorem moment?_of_digitsEnd {s : List Char} (h : DigitsEnd s) : moment? s = none := by
  have hdate : date? s = none := by
    unfold date?
    cases hyear : fixed? 4 s with
    | none => rfl
    | some year =>
        have stop := after?_of_digitsEnd (c := '-') rfl (by decide)
          (digitsEnd_of_fixed? h hyear)
        simp [stop]
  have htime : time? s = none := by
    unfold time?
    cases hhour : pair? 0 23 s with
    | none => rfl
    | some hour =>
        have stop := after?_of_digitsEnd (c := ':') rfl (by decide)
          (digitsEnd_of_pair? h hhour)
        simp [stop]
  simp [moment?, dateTime?, hdate, htime]

theorem moreDigits_digits (ds rest : List Char) (digits : ∀ d ∈ ds, isDigit d = true) :
    moreDigits isDigit (ds ++ '\n' :: rest) = (ds, '\n' :: rest) := by
  induction ds with
  | nil => simp [moreDigits, isDigit]
  | cons d ds ih =>
      have hd := digits d List.mem_cons_self
      have ih := ih fun d h => digits d (List.mem_cons_of_mem _ h)
      have underscore : d ≠ '_' := by
        rintro rfl
        simp [isDigit] at hd
      rw [List.cons_append, moreDigits, if_pos hd, ih]
      simp [underscore]

/-- A number does not begin with a zero, unless that is all of it. -/
theorem toDigits_cases (n : Nat) : Nat.toDigits 10 n = ['0'] ∨
    ∃ d ds, Nat.toDigits 10 n = d :: ds ∧ d ≠ '0' := by
  induction n using Nat.strong_induction_on with
  | _ n ih =>
      by_cases small : n < 10
      · rcases Nat.eq_zero_or_pos n with rfl | pos
        · exact .inl rfl
        · have digit : ∀ n < 10, 0 < n → n.digitChar ≠ '0' := by decide
          exact .inr ⟨n.digitChar, [], Nat.toDigits_of_lt_base small, digit n small pos⟩
      · have front : Nat.toDigits 10 (n / 10) ≠ ['0'] := by
          intro h
          have value := Nat.ofDigitChars_ten_toDigits (n := n / 10)
          rw [h] at value
          have zero : Nat.ofDigitChars 10 ['0'] 0 = 0 := rfl
          omega
        rcases ih (n / 10) (by omega) with h | ⟨d, ds, h, hd⟩
        · exact absurd h front
        · rw [Nat.toDigits_eq_if (by omega), if_neg small, h]
          exact .inr ⟨d, _, rfl, hd⟩

/-- The digits of a number, and then the end of the line. -/
theorem decimalDigits?_toDigits (n : Nat) (rest : List Char) :
    decimalDigits? (Nat.toDigits 10 n ++ '\n' :: rest)
      = some (Nat.toDigits 10 n, '\n' :: rest) := by
  rcases toDigits_cases n with h | ⟨d, ds, h, hd⟩
  · rw [h]
    rfl
  · have digits : ∀ c ∈ d :: ds, isDigit c = true := fun c hc => isDigit_of_mem_toDigits (h ▸ hc)
    have first := digits d List.mem_cons_self
    have more := moreDigits_digits ds rest fun c hc => digits c (List.mem_cons_of_mem _ hc)
    rw [h, List.cons_append, decimalDigits?, digits?, if_pos first, more]
    simp [hd]

theorem digitsValue_toDigits (n : Nat) : digitsValue 10 (Nat.toDigits 10 n) = n := by
  have hex {d : Char} (h : d.isDigit = true) : Text.hexDigit? d = some (d.toNat - '0'.toNat) := by
    have range : '0' ≤ d ∧ d ≤ '9' := by simpa [Char.isDigit, Char.le_def] using h
    rw [Text.hexDigit?, if_pos range]
  have step : ∀ (ds : List Char) (m : Nat), (∀ d ∈ ds, d.isDigit = true) →
      ds.foldl (fun n d => n * 10 + (Text.hexDigit? d).getD 0) m = Nat.ofDigitChars 10 ds m := by
    intro ds
    induction ds with
    | nil => intro m _; rfl
    | cons d ds ih =>
        intro m digits
        rw [List.foldl_cons, ih _ fun d h => digits d (List.mem_cons_of_mem _ h),
          hex (digits d List.mem_cons_self), Nat.ofDigitChars_cons, Nat.mul_comm]
        rfl
  rw [digitsValue, step _ _ fun d h => Nat.isDigit_of_mem_toDigits (by omega) (by omega) h,
    Nat.ofDigitChars_ten_toDigits]

/-- A number and the end of the line, by its first character. -/
theorem exists_toDigits (n : Nat) : ∃ d ds, Nat.toDigits 10 n = d :: ds ∧ isDigit d = true := by
  cases h : Nat.toDigits 10 n with
  | nil => exact absurd h Nat.toDigits_ne_nil
  | cons d ds => exact ⟨d, ds, rfl, isDigit_of_mem_toDigits (h ▸ List.mem_cons_self)⟩

/-- A character that is no digit does not begin a number. -/
theorem ne_of_isDigit {c d : Char} (hd : isDigit d = true) (hc : isDigit c = false) : d ≠ c := by
  rintro rfl
  simp [hd] at hc

theorem takeSign_of_digit {d : Char} (hd : isDigit d = true) (s : List Char) :
    takeSign (d :: s) = (false, d :: s) := by
  unfold takeSign
  split
  · rename_i h
    exact absurd (List.cons.inj h).1 (ne_of_isDigit hd rfl)
  · rename_i h
    exact absurd (List.cons.inj h).1 (ne_of_isDigit hd rfl)
  · rfl

/-- A number is no float, because nothing follows its digits on the line. -/
theorem float?_toDigits (n : Nat) (rest : List Char) :
    float? (Nat.toDigits 10 n ++ '\n' :: rest) = none := by
  obtain ⟨d, ds, h, hd⟩ := exists_toDigits n
  have digits := decimalDigits?_toDigits n rest
  rw [h, List.cons_append] at digits ⊢
  unfold float?
  rw [takeSign_of_digit hd]
  dsimp only
  split
  · rename_i heq
    exact absurd (List.cons.inj heq).1 (ne_of_isDigit hd rfl)
  · rename_i heq
    exact absurd (List.cons.inj heq).1 (ne_of_isDigit hd rfl)
  · rw [digits]
    rfl

/-- A number is read as an integer. -/
theorem integer?_toDigits {n : Nat} (fits : n < Nat.pow 2 63) (rest : List Char) :
    integer? (Nat.toDigits 10 n ++ '\n' :: rest) = some (.integer n, '\n' :: rest) := by
  obtain ⟨d, ds, h, hd⟩ := exists_toDigits n
  have digits := decimalDigits?_toDigits n rest
  have value := digitsValue_toDigits n
  have marker (c : Char) (hc : isDigit c = false) (hn : c ≠ '\n') (s : List Char) :
      Nat.toDigits 10 n ++ '\n' :: rest ≠ '0' :: c :: s := by
    intro heq
    rcases toDigits_cases n with h | ⟨d', ds', h, hd'⟩
    · rw [h] at heq
      simp [Ne.symm hn] at heq
    · rw [h] at heq
      exact hd' (List.cons.inj heq).1
  rw [integer?]
  · rw [h, List.cons_append] at digits ⊢
    rw [takeSign_of_digit hd]
    dsimp only
    rw [digits, ← h]
    simp [value, signed?, fits]
  · exact marker 'x' rfl (by decide)
  · exact marker 'o' rfl (by decide)
  · exact marker 'b' rfl (by decide)

/-! ### Values -/

/-- What is written between quotes is a string, unless a third quote follows two of them. -/
theorem quotation?_of_basic? {t s r : List Char} (body : basic? t = some (s, r))
    (stop : r.head? ≠ some '"') : quotation? ('"' :: t) = some (String.ofList s, r) := by
  unfold quotation?
  split
  · rename_i rest heq
    have empty : basic? t = some ([], '"' :: rest) := by
      rw [(List.cons.inj heq).2]
      rfl
    rw [body, Option.some.injEq, Prod.mk.injEq] at empty
    exact absurd (by rw [empty.2]; rfl) stop
  · rename_i heq
    rw [← (List.cons.inj heq).2, body]
    rfl
  · rename_i heq
    simp at heq
  · rename_i heq
    simp at heq
  · rename_i unquoted _ _
    exact (unquoted t rfl).elim

theorem quotation?_of_ne {c : Char} (quote : c ≠ '"') (apostrophe : c ≠ '\x27') (s : List Char) :
    quotation? (c :: s) = none := by
  unfold quotation?
  split
  all_goals
    first
    | rfl
    | (rename_i heq
       have first := (List.cons.inj heq).1
       contradiction)

/-- A value is read as it was written, up to the end of its line. -/
theorem scalar?_write (coded : Char → Bool) {v : Scalar} (fits : v.Fits) (rest : List Char) :
    scalar? (v.write coded ++ '\n' :: rest) = some (v.value, '\n' :: rest) := by
  cases v with
  | text s =>
      have body := basic?_writeChars coded s.toList ('\n' :: rest)
      have quoted := quotation?_of_basic? body (by simp)
      have written : (Scalar.text s).write coded ++ '\n' :: rest
          = '"' :: (s.toList.flatMap (fun c => writeChar (coded c) c) ++ '"' :: '\n' :: rest) := by
        simp [Scalar.write]
      rw [written, scalar?, quoted]
      simp [Scalar.value]
  | number n =>
      obtain ⟨d, ds, h, hd⟩ := exists_toDigits n
      have hquotation : quotation? (Nat.toDigits 10 n ++ '\n' :: rest) = none := by
        rw [h, List.cons_append]
        exact quotation?_of_ne (ne_of_isDigit hd rfl) (ne_of_isDigit hd rfl) _
      have hboolean : boolean? (Nat.toDigits 10 n ++ '\n' :: rest) = none := by
        have ht : 't' ≠ d := (ne_of_isDigit hd rfl).symm
        have hf : 'f' ≠ d := (ne_of_isDigit hd rfl).symm
        simp [h, boolean?, afterWord?, List.isPrefixOf, ht, hf]
      have hmoment : moment? (Nat.toDigits 10 n ++ '\n' :: rest) = none :=
        moment?_of_digitsEnd ⟨_, rest, fun d h => isDigit_of_mem_toDigits h, rfl⟩
      rw [Scalar.write, scalar?, hquotation, hboolean, hmoment, float?_toDigits,
        integer?_toDigits fits]
      rfl
  | truth b => cases b <;> rfl

/-- The character with which a value begins opens no array and no inline table, and is no space. -/
theorem exists_write (coded : Char → Bool) (v : Scalar) : ∃ c s, v.write coded = c :: s ∧
    c ≠ '[' ∧ c ≠ '\x7b' ∧ isSpace c = false := by
  cases v with
  | text s => exact ⟨_, _, rfl, by decide, by decide, rfl⟩
  | number n =>
      obtain ⟨d, ds, h, hd⟩ := exists_toDigits n
      refine ⟨d, ds, h, ne_of_isDigit hd rfl, ne_of_isDigit hd rfl, ?_⟩
      simp [isSpace, ne_of_isDigit (c := ' ') hd rfl, ne_of_isDigit (c := '\t') hd rfl]
  | truth b => cases b <;> exact ⟨_, _, rfl, by decide, by decide, rfl⟩

theorem value?_write (coded : Char → Bool) (depth : Nat) {v : Scalar} (fits : v.Fits)
    (rest : List Char) :
    value? depth (v.write coded ++ '\n' :: rest) = some (v.value, '\n' :: rest) := by
  obtain ⟨c, s, h, bracket, brace, -⟩ := exists_write coded v
  have hscalar := scalar?_write coded fits rest
  rw [h, List.cons_append] at hscalar ⊢
  unfold value?
  split
  · rename_i heq
    exact absurd (List.cons.inj heq).1 bracket
  · rename_i heq
    exact absurd (List.cons.inj heq).1 brace
  · exact hscalar

/-! ### Lines -/

/-- A character of a bare name is none that belongs to no bare name. -/
theorem ne_of_isBare {c d : Char} (hc : isBare c = true) (hd : isBare d = false) : c ≠ d := by
  rintro rfl
  simp [hc] at hd

theorem isSpace_of_isBare {c : Char} (h : isBare c = true) : isSpace c = false := by
  simp [isSpace, ne_of_isBare (d := ' ') h (by decide), ne_of_isBare (d := '\t') h (by decide)]

theorem exists_bare {name : String} (bare : IsBareName name) :
    ∃ c s, name.toList = c :: s ∧ isBare c = true := by
  obtain ⟨ne, all⟩ := bare
  cases h : name.toList with
  | nil => exact absurd h ne
  | cons c s => exact ⟨c, s, rfl, all c (h ▸ List.mem_cons_self)⟩

/-- A bare name ends before a character that does not belong to it. -/
theorem name?_bare {name : String} (bare : IsBareName name) {c : Char} (stop : isBare c = false)
    (rest : List Char) : name? (name.toList ++ c :: rest) = some (name, c :: rest) := by
  obtain ⟨ne, all⟩ := bare
  obtain ⟨d, ds, h, own⟩ := exists_bare ⟨ne, all⟩
  have take : (name.toList ++ c :: rest).takeWhile isBare = name.toList := by
    rw [List.takeWhile_append_of_pos all]
    simp [stop]
  have drop : (name.toList ++ c :: rest).dropWhile isBare = c :: rest := by
    rw [List.dropWhile_append_of_pos all]
    simp [stop]
  rw [name?]
  · rw [take, drop]
    simp [ne]
  · intro t heq
    rw [h] at heq
    exact ne_of_isBare (d := '"') own (by decide) (List.cons.inj heq).1
  · intro t heq
    rw [h] at heq
    exact ne_of_isBare (d := '\x27') own (by decide) (List.cons.inj heq).1

theorem skipSpaces_of_not {c : Char} (h : isSpace c = false) (s : List Char) :
    skipSpaces (c :: s) = c :: s := by
  simp [skipSpaces, h]

/-- A bare key ends where something else follows than a point. -/
theorem key?_bare {name : String} (bare : IsBareName name) {c d : Char} {s rest : List Char}
    (stop : isBare c = false) (next : skipSpaces (c :: s) = d :: rest) (point : d ≠ '.')
    (depth : Nat) : key? (depth + 1) (name.toList ++ c :: s) = some (⟨[], name⟩, d :: rest) := by
  obtain ⟨b, bs, h, own⟩ := exists_bare bare
  have hname := name?_bare bare stop s
  have front : skipSpaces (name.toList ++ c :: s) = name.toList ++ c :: s := by
    rw [h, List.cons_append, skipSpaces_of_not (isSpace_of_isBare own)]
  rw [key?, front, hname]
  simp only [Option.bind_eq_bind, Option.bind_some, next]
  split
  · rename_i heq
    exact absurd (List.cons.inj heq).1 point
  · rfl

theorem statement?_of_ne {c : Char} (bracket : c ≠ '[') (s : List Char) : statement? (c :: s) =
    (key? maxDepth (c :: s)).bind fun r => (after? '=' r.2).bind fun s =>
      (value? maxDepth (skipSpaces s)).bind fun v => (lineEnd? v.2).bind fun rest =>
        some (.assign r.1 v.1, rest) := by
  unfold statement?
  split
  · rename_i heq
    exact absurd (List.cons.inj heq).1 bracket
  · rename_i heq
    exact absurd (List.cons.inj heq).1 bracket
  · rfl

/-- A line that is not blank is read as its statement, and what follows is the next line. -/
theorem statement?_write (coded : Char → Bool) {line : Line} (plain : line.Plain)
    {statement : Statement} (hline : line.statement? = some statement) (rest : List Char) :
    statement? (line.write coded ++ rest) = some (statement, rest) := by
  cases line with
  | blank => simp [Line.statement?] at hline
  | header name =>
      have bare : IsBareName name := plain
      obtain ⟨b, bs, h, own⟩ := exists_bare bare
      have hkey : key? maxDepth _ = _ := key?_bare bare (c := ']') (by decide)
        (skipSpaces_of_not (by decide) ('\n' :: rest)) (by decide) 78
      have written : (Line.header name).write coded ++ rest
          = '[' :: (name.toList ++ ']' :: '\n' :: rest) := by
        simp [Line.write]
      obtain rfl := Option.some.inj hline
      rw [written, statement?]
      · rw [hkey]
        rfl
      · intro s heq
        rw [h] at heq
        exact ne_of_isBare own (by decide) (List.cons.inj heq).1
  | entry key v =>
      obtain ⟨bare, fits⟩ : IsBareName key ∧ v.Fits := plain
      obtain ⟨b, bs, h, own⟩ := exists_bare bare
      obtain ⟨c, s, hv, -, -, space⟩ := exists_write coded v
      have hkey : key? maxDepth _ = _ := key?_bare bare (c := ' ') (by decide)
        (show skipSpaces (' ' :: '=' :: ' ' :: (v.write coded ++ '\n' :: rest)) = _ from rfl)
        (by decide) 78
      have hvalue := value?_write coded maxDepth fits rest
      have front : skipSpaces (' ' :: (v.write coded ++ '\n' :: rest))
          = v.write coded ++ '\n' :: rest := by
        rw [hv, List.cons_append]
        exact skipSpaces_of_not space _
      have written : (Line.entry key v).write coded ++ rest
          = key.toList ++ ' ' :: '=' :: ' ' :: (v.write coded ++ '\n' :: rest) := by
        simp [Line.write]
      obtain rfl := Option.some.inj hline
      have hstatement := statement?_of_ne (ne_of_isBare own (by decide))
        (bs ++ ' ' :: '=' :: ' ' :: (v.write coded ++ '\n' :: rest))
      rw [← List.cons_append, ← h] at hstatement
      rw [written, hstatement, hkey]
      simp only [Option.bind_some, after?, if_true, front]
      rw [hvalue]
      rfl

/-! ### Documents -/

/-- Filler ends where a line begins that is not blank. -/
theorem exists_filler (coded : Char → Bool) {line : Line} (plain : line.Plain)
    {statement : Statement} (hline : line.statement? = some statement) (rest : List Char) :
    ∃ c s, line.write coded ++ rest = c :: s ∧ skipFiller? false (c :: s) = some (c :: s) := by
  have ends {c : Char} (newline : c ≠ '\n') (back : c ≠ '\r') (space : isSpace c = false)
      (comment : c ≠ '#') (s : List Char) : skipFiller? false (c :: s) = some (c :: s) := by
    rw [skipFiller?, if_neg (by simp [space]), if_neg comment]
    · exact newline
    · exact back
  cases line with
  | blank => simp [Line.statement?] at hline
  | header name => exact ⟨_, _, rfl, ends (by decide) (by decide) rfl (by decide) _⟩
  | entry key v =>
      obtain ⟨bare, -⟩ : IsBareName key ∧ v.Fits := plain
      obtain ⟨c, s, h, own⟩ := exists_bare bare
      refine ⟨c, _, by rw [Line.write, h]; rfl, ?_⟩
      exact ends (ne_of_isBare own (by decide)) (ne_of_isBare own (by decide))
        (isSpace_of_isBare own) (ne_of_isBare own (by decide)) _

/-- **A plain document is read as the statements of its lines.** -/
theorem statements?_writeLines (coded : Char → Bool) (lines : List Line)
    (plain : ∀ line ∈ lines, line.Plain) : ∀ fuel, lines.length < fuel →
      statements? fuel (writeLines coded lines) = some (lines.filterMap Line.statement?) := by
  induction lines with
  | nil =>
      intro fuel enough
      obtain ⟨fuel, rfl⟩ := Nat.exists_eq_succ_of_ne_zero (show fuel ≠ 0 by omega)
      rfl
  | cons line lines ih =>
      intro fuel enough
      have ih := ih fun line h => plain line (List.mem_cons_of_mem _ h)
      have hline := plain line List.mem_cons_self
      obtain ⟨fuel, rfl⟩ := Nat.exists_eq_succ_of_ne_zero (show fuel ≠ 0 by omega)
      rw [List.length_cons] at enough
      have written : writeLines coded (line :: lines)
          = line.write coded ++ writeLines coded lines := List.flatMap_cons
      cases hstatement : line.statement? with
      | none =>
          -- Only a blank line makes no statement, and it is filler.
          obtain rfl : line = .blank := by cases line <;> simp [Line.statement?] at hstatement ⊢
          rw [written, List.filterMap_cons_none hstatement, ← ih (fuel + 1) (by omega)]
          rfl
      | some statement =>
          obtain ⟨c, s, hfront, hfiller⟩ := exists_filler coded hline hstatement
            (writeLines coded lines)
          have hread := statement?_write coded hline hstatement (writeLines coded lines)
          rw [hfront] at hread
          rw [written, hfront, List.filterMap_cons_some hstatement, statements?, hfiller]
          simp only [Option.bind_eq_bind, Option.bind_some, hread, ih fuel (by omega)]

theorem length_le_writeLines (coded : Char → Bool) (lines : List Line) :
    lines.length ≤ (writeLines coded lines).length := by
  induction lines with
  | nil => simp
  | cons line lines ih =>
      have ends : 1 ≤ (line.write coded).length := by
        cases line <;> simp only [Line.write, List.length_append, List.length_cons] <;> omega
      have written : writeLines coded (line :: lines)
          = line.write coded ++ writeLines coded lines := List.flatMap_cons
      rw [written, List.length_append, List.length_cons]
      omega

/-- A document without a byte order mark in front is what its statements build. -/
theorem document?_writeLines (coded : Char → Bool) {lines : List Line}
    (plain : ∀ line ∈ lines, line.Plain)
    (unmarked : (writeLines coded lines).head? ≠ some '\ufeff') :
    document? (String.ofList (writeLines coded lines))
      = build? (lines.filterMap Line.statement?) := by
  have front : skipMark (writeLines coded lines) = writeLines coded lines := by
    unfold skipMark
    split
    · rename_i heq
      rw [heq] at unmarked
      exact absurd rfl unmarked
    · rfl
  have enough := length_le_writeLines coded lines
  rw [document?, String.toList_ofList, front, statements?_writeLines coded lines plain _ (by omega)]
  rfl

end Tripwire.Toml
