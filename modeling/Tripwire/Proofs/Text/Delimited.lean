/-
Where one thing that is written ends and the next one begins.

A way of writing is self-delimiting if a text can be read in one way only as something written
followed by a rest, whatever the rest is.  Then the text says what was written, and there is
nothing that could be written to look like something else with a different rest behind it.  This
is stronger than being injective, and unlike that it carries over to sequences: items that are
written one after the other, up to a mark none of them opens with, are self-delimiting if each
item is, `SelfDelimiting.flatMap_stop`.

A number is not self-delimiting by itself, but it is with any character behind it that is no digit.
A character of quoted text is, since `decodeChar?` finds it in front of any rest.  None opens with a
quote, so quoted text is self-delimiting, and none of these opens with a bracket, so a list in
brackets is as well, `Quoted.selfDelimiting_brackets`.  All this holds whichever characters are
plain, as those that have a letter are never written as themselves.
-/
import Mathlib.Data.List.Basic
import Tripwire.Text.Hexadecimal
import Tripwire.Text.Quoted

namespace Tripwire.Text

variable {α : Type}

/-! ### Texts that say where they end -/

/-- A text can be read in at most one way as something written and a rest. -/
def SelfDelimiting (write : α → List Char) : Prop :=
  ∀ ⦃a b : α⦄ ⦃r r' : List Char⦄, write a ++ r = write b ++ r' → a = b ∧ r = r'

/-- A list has at most one cut with the one part in a set of characters and the other not opening
in it. -/
theorem cut_unique {p : Char → Bool} {xs ys r r' : List Char} (hxs : ∀ c ∈ xs, p c = true)
    (hys : ∀ c ∈ ys, p c = true) (hr : ∀ c ∈ r.head?, p c = false)
    (hr' : ∀ c ∈ r'.head?, p c = false) (h : xs ++ r = ys ++ r') : xs = ys ∧ r = r' := by
  have stops : ∀ {l : List Char}, (∀ c ∈ l.head?, p c = false) → l.takeWhile p = [] := by
    intro l hl
    cases l with
    | nil => rfl
    | cons c l => simp [hl c rfl]
  have taken := congrArg (List.takeWhile p) h
  rw [List.takeWhile_append_of_pos hxs, List.takeWhile_append_of_pos hys, stops hr, stops hr',
    List.append_nil, List.append_nil] at taken
  exact ⟨taken, List.append_cancel_left (taken ▸ h)⟩

namespace SelfDelimiting

variable {write : α → List Char}

theorem injective (hw : SelfDelimiting write) : Function.Injective write := by
  intro a b h
  exact (hw (congrArg (· ++ []) h)).1

/-- What a reader finds in front of any rest is self-delimiting. -/
theorem of_decode {decode? : List Char → Option (α × List Char)}
    (h : ∀ a r, decode? (write a ++ r) = some (a, r)) : SelfDelimiting write := by
  intro a b r r' heq
  have same : some (a, r) = some (b, r') := by rw [← h a r, heq, h b r']
  simpa using same

/-- A mark behind it shows the end of anything the mark does not occur in. -/
theorem of_stop {stop : Char} (inj : Function.Injective write) (h : ∀ a, stop ∉ write a) :
    SelfDelimiting fun a => write a ++ [stop] := by
  intro a b r r' heq
  have other : ∀ a, ∀ c ∈ write a, decide (c ≠ stop) = true :=
    fun a c hc => decide_eq_true fun hstop => h a (hstop ▸ hc)
  simp only [List.append_assoc, List.singleton_append] at heq
  obtain ⟨same, rest⟩ := cut_unique (other a) (other b) (by simp) (by simp) heq
  exact ⟨inj same, List.tail_eq_of_cons_eq rest⟩

/-- The same text in front of each changes nothing. -/
theorem behind (hw : SelfDelimiting write) (front : List Char) :
    SelfDelimiting fun a => front ++ write a := by
  intro a b r r' heq
  simp only [List.append_assoc] at heq
  exact hw (List.append_cancel_left heq)

/-- Items one after the other, up to a mark that none of them opens with. -/
theorem flatMap_stop (hw : SelfDelimiting write) {stop : Char}
    (opens : ∀ a, ∃ c s, write a = c :: s ∧ c ≠ stop) :
    SelfDelimiting fun as : List α => as.flatMap write ++ [stop] := by
  have unlike (a : α) {r s : List Char} : write a ++ r ≠ stop :: s := by
    obtain ⟨c, t, heq, hc⟩ := opens a
    rw [heq]
    exact fun h => hc (List.head_eq_of_cons_eq h)
  intro as
  induction as with
  | nil =>
      intro bs r r' heq
      cases bs with
      | nil => exact ⟨rfl, by simpa using heq⟩
      | cons b bs => exact absurd heq.symm (by simpa using unlike b)
  | cons a as ih =>
      intro bs r r' heq
      cases bs with
      | nil => exact absurd heq (by simpa using unlike a)
      | cons b bs =>
          simp only [List.flatMap_cons, List.append_assoc] at heq
          obtain ⟨rfl, heq⟩ := hw heq
          obtain ⟨rfl, rest⟩ := ih (by simpa using heq)
          exact ⟨rfl, rest⟩

end SelfDelimiting

/-- The first item stands by itself, and each of the others has the separator in front of it. -/
theorem intercalate_cons (sep a : List α) (as : List (List α)) :
    sep.intercalate (a :: as) = a ++ as.flatMap (sep ++ ·) := by
  induction as generalizing a with
  | nil => simp
  | cons b as ih => simp [List.intercalate_cons_cons, ih b]

/-! ### Texts on one line -/

/-- No character of the text breaks the line or moves on it, and none is NUL. -/
def OneLine (s : List Char) : Prop := ∀ c ∈ s, c ∉ ['\n', '\r', '\t', '\x00']

theorem oneLine_append {s t : List Char} : OneLine (s ++ t) ↔ OneLine s ∧ OneLine t :=
  List.forall_mem_append

theorem oneLine_flatMap {write : α → List Char} {as : List α} (h : ∀ a ∈ as, OneLine (write a)) :
    OneLine (as.flatMap write) := by
  intro c hc
  obtain ⟨a, ha, hc⟩ := List.mem_flatMap.mp hc
  exact h a ha c hc

/-! ### Numbers -/

section Digits

variable {b : Nat}

theorem exists_digit_of_mem (hb : 1 < b) {n : Nat} {c : Char}
    (hc : c ∈ Nat.toDigits b n) : ∃ d < b, c = Nat.digitChar d := by
  induction n using Nat.strongRecOn with
  | ind n ih =>
      rw [Nat.toDigits_eq_if hb] at hc
      split at hc
      · rename_i small
        exact ⟨n, small, by simpa using hc⟩
      · rename_i large
        rcases List.mem_append.mp hc with front | last
        · exact ih (n / b) (Nat.div_lt_self (by omega) hb) front
        · exact ⟨n % b, Nat.mod_lt n (by omega), by simpa using last⟩

/-- Digits share what all sixteen of them have. -/
theorem of_mem_toDigits {p : Char → Prop} (h : ∀ d < 16, p (Nat.digitChar d)) (hb : 1 < b)
    (small : b ≤ 16) {n : Nat} {c : Char} (hc : c ∈ Nat.toDigits b n) : p c := by
  obtain ⟨d, hd, rfl⟩ := exists_digit_of_mem hb hc
  exact h d (by omega)

theorem oneLine_toDigits (hb : 1 < b) (small : b ≤ 16) (n : Nat) :
    OneLine (Nat.toDigits b n) :=
  fun _ hc => of_mem_toDigits (p := (· ∉ ['\n', '\r', '\t', '\x00'])) (by decide) hb small hc

end Digits

theorem toDigits_injective : Function.Injective (Nat.toDigits 10) := by
  intro m n h
  rw [← Nat.ofDigitChars_ten_toDigits (n := m), h, Nat.ofDigitChars_ten_toDigits]

/-- A number says where it ends if a character follows it that is no digit. -/
theorem selfDelimiting_number {stop : Char} (h : stop.isDigit = false) :
    SelfDelimiting fun n => Nat.toDigits 10 n ++ [stop] := by
  refine .of_stop toDigits_injective fun n hstop => ?_
  have digit := Nat.isDigit_of_mem_toDigits (by omega) (by omega) hstop
  exact absurd digit (by simp [h])

/-- The digits of a code point spell its character. -/
theorem hexChar?_toDigits (c : Char) : hexChar? (Nat.toDigits 16 c.toNat) = some c := by
  have spelled : ∀ n, (Nat.toDigits 16 n).foldlM (fun n d => (hexDigit? d).map (n * 16 + ·)) 0
      = some n := by
    intro n
    induction n using Nat.strongRecOn with
    | ind n ih =>
        rw [Nat.toDigits_eq_if (by omega)]
        split
        · rename_i small
          simp [hexDigit?_digitChar small]
        · rename_i large
          have last := hexDigit?_digitChar (Nat.mod_lt n (show 0 < 16 by omega))
          simp only [List.foldlM_append, ih (n / 16) (by omega), List.foldlM_cons, last,
            List.foldlM_nil, Option.map_some, Option.bind_eq_bind, Option.bind_some,
            Option.pure_def]
          exact congrArg some (Nat.div_add_mod' n 16)
  have valid : c.toNat.isValidChar := c.valid
  simp [hexChar?, spelled, valid]

/-! ### Quoted text -/

namespace Quoted

variable (plain : Char → Bool)

/-- The character that a letter behind a backslash stands for. -/
def unletter? : Char → Option Char
  | '0' => some '\x00'
  | 't' => some '\t'
  | 'r' => some '\r'
  | 'n' => some '\n'
  | '\\' => some '\\'
  | '"' => some '"'
  | _ => none

/-- Takes the first character off quoted text. -/
def decodeChar? : List Char → Option (Char × List Char)
  | '\\' :: 'u' :: '\x7b' :: s =>
      (hexChar? (s.takeWhile (· ≠ '\x7d'))).map fun c => (c, (s.dropWhile (· ≠ '\x7d')).tail)
  | '\\' :: l :: s => (unletter? l).map fun c => (c, s)
  | c :: s => some (c, s)
  | [] => none

/-- A character is written with its letter, as itself or by its code point. -/
theorem encodeChar_cases (c : Char) :
    (∃ l, letter? c = some l ∧ encodeChar plain c = ['\\', l]) ∨
      letter? c = none ∧ (encodeChar plain c = [c] ∨
        encodeChar plain c
          = '\\' :: 'u' :: '\x7b' :: (Nat.toDigits 16 c.toNat ++ ['\x7d'])) := by
  unfold encodeChar
  cases hl : letter? c with
  | some l => exact .inl ⟨l, rfl, rfl⟩
  | none =>
      refine .inr ⟨rfl, ?_⟩
      cases plain c with
      | true => exact .inl rfl
      | false => exact .inr rfl

/-- What has a letter, or stands for one, is never written as itself. -/
theorem ne_of_letter?_none {c : Char} (h : letter? c = none) :
    c ≠ '\\' ∧ c ≠ '"' ∧ c ∉ ['\n', '\r', '\t', '\x00'] := by
  refine ⟨?_, ?_, ?_⟩
  · rintro rfl
    cases h
  · rintro rfl
    cases h
  · intro hc
    simp only [List.mem_cons, List.not_mem_nil, or_false] at hc
    rcases hc with rfl | rfl | rfl | rfl <;> cases h

theorem decodeChar?_letter {c l : Char} (h : letter? c = some l) (r : List Char) :
    decodeChar? ('\\' :: l :: r) = some (c, r) := by
  unfold letter? at h
  split at h <;> cases h
  all_goals rfl

/-- A character that is written can be taken off again, whatever follows. -/
theorem decodeChar?_encodeChar (c : Char) (r : List Char) :
    decodeChar? (encodeChar plain c ++ r) = some (c, r) := by
  rcases encodeChar_cases plain c with ⟨l, hl, heq⟩ | ⟨hl, heq | heq⟩
  · rw [heq]
    exact decodeChar?_letter hl r
  · have hc := (ne_of_letter?_none hl).1
    rw [heq]
    simp [decodeChar?, hc]
  · have others : ∀ d ∈ Nat.toDigits 16 c.toNat, decide (d ≠ '\x7d') = true :=
      fun d hd => decide_eq_true
        (of_mem_toDigits (p := (· ≠ '\x7d')) (by decide) (by omega) (by omega) hd)
    have taken : (Nat.toDigits 16 c.toNat ++ '\x7d' :: r).takeWhile (· ≠ '\x7d')
        = Nat.toDigits 16 c.toNat := by
      rw [List.takeWhile_append_of_pos others]
      simp
    have left : (Nat.toDigits 16 c.toNat ++ '\x7d' :: r).dropWhile (· ≠ '\x7d')
        = '\x7d' :: r := by
      rw [List.dropWhile_append_of_pos others]
      simp
    rw [heq]
    simp only [List.cons_append, List.append_assoc, List.nil_append, decodeChar?, taken, left,
      hexChar?_toDigits, Option.map_some, List.tail_cons]

theorem selfDelimiting_encodeChar : SelfDelimiting (encodeChar plain) :=
  .of_decode (decodeChar?_encodeChar plain)

/-- Only the end of quoted text opens with a quote. -/
theorem encodeChar_opens (c : Char) : ∃ d s, encodeChar plain c = d :: s ∧ d ≠ '"' := by
  rcases encodeChar_cases plain c with ⟨l, -, heq⟩ | ⟨hl, heq | heq⟩
  · exact ⟨_, _, heq, by decide⟩
  · exact ⟨_, _, heq, (ne_of_letter?_none hl).2.1⟩
  · exact ⟨_, _, heq, by decide⟩

theorem oneLine_encodeChar (c : Char) : OneLine (encodeChar plain c) := by
  rcases encodeChar_cases plain c with ⟨l, hl, heq⟩ | ⟨hl, heq | heq⟩
  · have letters : l ∉ ['\n', '\r', '\t', '\x00'] := by
      unfold letter? at hl
      split at hl <;> cases hl <;> decide
    rw [heq]
    simpa [OneLine] using letters
  · have hc := (ne_of_letter?_none hl).2.2
    rw [heq]
    simpa [OneLine] using hc
  · have digits := oneLine_toDigits (b := 16) (by omega) (by omega) c.toNat
    have front : OneLine ['\\', 'u', '\x7b'] := by simp [OneLine]
    have back : OneLine ['\x7d'] := by simp [OneLine]
    rw [heq]
    exact oneLine_append.mpr ⟨front, oneLine_append.mpr ⟨digits, back⟩⟩

/-- Quoted text says where it ends and what it quotes. -/
theorem selfDelimiting_encode : SelfDelimiting (encode plain) :=
  ((selfDelimiting_encodeChar plain).flatMap_stop (encodeChar_opens plain)).behind ['"']

theorem oneLine_encode (s : List Char) : OneLine (encode plain s) := by
  have quote : OneLine ['"'] := by simp [OneLine]
  have body := oneLine_flatMap fun c (_ : c ∈ s) => oneLine_encodeChar plain c
  exact oneLine_append.mpr ⟨oneLine_append.mpr ⟨quote, body⟩, quote⟩

/-- Quoted texts in brackets. -/
def brackets (texts : List (List Char)) : List Char :=
  '[' :: [',', ' '].intercalate (texts.map (encode plain)) ++ [']']

/-- A comma and a text behind it, for each of the texts. -/
def others (texts : List (List Char)) : List Char :=
  texts.flatMap fun s => [',', ' '] ++ encode plain s

theorem brackets_cons (s : List Char) (ss : List (List Char)) :
    brackets plain (s :: ss) = ['['] ++ (encode plain s ++ (others plain ss ++ [']'])) := by
  simp [brackets, others, intercalate_cons, List.flatMap_map]

theorem selfDelimiting_others : SelfDelimiting fun ss => others plain ss ++ [']'] :=
  ((selfDelimiting_encode plain).behind [',', ' ']).flatMap_stop
    fun s => ⟨',', ' ' :: encode plain s, rfl, by decide⟩

/-- Quoted texts in brackets say where they end, which texts they are and how many. -/
theorem selfDelimiting_brackets : SelfDelimiting (brackets plain) := by
  intro ss ts r r' h
  cases ss with
  | nil =>
      cases ts with
      | nil => exact ⟨rfl, List.append_cancel_left h⟩
      | cons t ts => simp [encode, brackets] at h
  | cons s ss =>
      cases ts with
      | nil => simp [encode, brackets] at h
      | cons t ts =>
          rw [brackets_cons, brackets_cons] at h
          simp only [List.append_assoc] at h
          obtain ⟨rfl, more⟩ := selfDelimiting_encode plain (List.append_cancel_left h)
          simp only [← List.append_assoc _ [']']] at more
          obtain ⟨rfl, rest⟩ := selfDelimiting_others plain more
          exact ⟨rfl, rest⟩

theorem oneLine_brackets (ss : List (List Char)) : OneLine (brackets plain ss) := by
  cases ss with
  | nil => simp [brackets, OneLine]
  | cons s ss =>
      have comma : OneLine [',', ' '] := by simp [OneLine]
      have more : OneLine (others plain ss) :=
        oneLine_flatMap fun s _ => oneLine_append.mpr ⟨comma, oneLine_encode plain s⟩
      rw [brackets_cons]
      simp only [oneLine_append]
      exact ⟨by simp [OneLine], oneLine_encode plain s, more, by simp [OneLine]⟩

/-- What is between the brackets when texts are written as entries. -/
theorem toList_bracketed (lines : List String) :
    (bracketed (lines.map fun l => String.ofList (encode plain l.toList))).toList
      = brackets plain (lines.map String.toList) := by
  simp [bracketed, brackets, String.toList_intercalate, List.map_map, Function.comp_def]

end Quoted

end Tripwire.Text
