/-
Lines that are decoded one by one.

A watch cuts the bytes of its input into lines and decodes each line by itself.  Decoding the whole
input first and cutting the text would give the same lines: a newline is an octet below 0x80, so
whatever is malformed in front of it is over where it stands, and nothing of it is left for the next
line, `cutBehind_decodeLossy`.  The proof is by induction on the lines, `byLines`.  All that a line
can do to its neighbours is seen from one equation, `texts_append_newline`: what stands in front of
a newline and what stands behind it are cut and decoded as if the other were not there.
-/
import Tripwire.Proofs.Watchdog.Cuts
import Tripwire.Proofs.Watchdog.Search

namespace Tripwire

namespace Watchdog

open Text Utf8

/-! ### Cutting -/

section Cutting

variable {α : Type} [DecidableEq α] {mark : α}

/-- Cuts a list behind each mark.  What is behind the last one is a piece as well, unless it is
empty. -/
def cutBehind (mark : α) : List α → List (List α)
  | [] => []
  | a :: rest =>
      if a = mark then [a] :: cutBehind mark rest
      else
        match cutBehind mark rest with
        | [] => [[a]]
        | piece :: pieces => (a :: piece) :: pieces

theorem cutBehind_mark (rest : List α) :
    cutBehind mark (mark :: rest) = [mark] :: cutBehind mark rest := by
  rw [cutBehind, if_pos rfl]

theorem cutBehind_cons {a : α} (h : a ≠ mark) (rest : List α) :
    cutBehind mark (a :: rest) =
      match cutBehind mark rest with
      | [] => [[a]]
      | piece :: pieces => (a :: piece) :: pieces := by
  rw [cutBehind, if_neg h]

/-- A list without a mark is one piece. -/
theorem cutBehind_of_not_mem {body : List α} (h : mark ∉ body) :
    cutBehind mark body = if body = [] then [] else [body] := by
  induction body with
  | nil => rfl
  | cons a body ih =>
      rw [List.mem_cons, not_or] at h
      rw [cutBehind_cons (Ne.symm h.1), ih h.2]
      cases body <;> rfl

/-- The first mark ends the first piece. -/
theorem cutBehind_append {body : List α} (h : mark ∉ body) (rest : List α) :
    cutBehind mark (body ++ mark :: rest) = (body ++ [mark]) :: cutBehind mark rest := by
  induction body with
  | nil => exact cutBehind_mark rest
  | cons a body ih =>
      rw [List.mem_cons, not_or] at h
      rw [List.cons_append, cutBehind_cons (Ne.symm h.1), ih h.2]
      rfl

/-- What holds of a last piece, and of a list with one more piece in front, holds of every list. -/
theorem byLines (mark : α) {p : List α → Prop} (last : ∀ body, mark ∉ body → p body)
    (line : ∀ body rest, mark ∉ body → p rest → p (body ++ mark :: rest)) (xs : List α) : p xs := by
  induction hlength : xs.length using Nat.strong_induction_on generalizing xs with
  | _ n ih =>
      by_cases hmark : mark ∈ xs
      · obtain ⟨body, rest, rfl, hbody⟩ := List.eq_append_cons_of_mem hmark
        refine line body rest hbody (ih rest.length ?_ rest rfl)
        rw [← hlength, List.length_append, List.length_cons]
        omega
      · exact last xs hmark

/-- A mark separates what stands on its sides. -/
theorem cutBehind_append_mark (before after : List α) :
    cutBehind mark (before ++ mark :: after)
      = cutBehind mark (before ++ [mark]) ++ cutBehind mark after := by
  induction before using byLines mark with
  | last body h => rw [cutBehind_append h, cutBehind_append h]; rfl
  | line body rest h ih =>
      rw [List.append_assoc, List.append_assoc, List.cons_append, List.cons_append,
        cutBehind_append h, cutBehind_append h, ih]
      rfl

end Cutting

/-- The lines of an input are cut behind its newlines. -/
theorem allLines_eq_cutBehind (bytes : List UInt8) : allLines bytes = cutBehind newline bytes := by
  induction bytes using byLines newline with
  | last body h => rw [cutBehind_of_not_mem h, allLines, cutLines_of_not_mem h]; rfl
  | line body rest h ih =>
      have hcut : cutLines (body ++ [newline]) = ([body ++ [newline]], []) := cutLines_concat h
      rw [cutBehind_append h, ← ih, List.append_cons, allLines_append, hcut]
      rfl

/-! ### Cutting and decoding -/

theorem decodeLossy_newline (bytes more : List UInt8) :
    decodeLossy (bytes ++ newline :: more) = decodeLossy bytes ++ '\n' :: decodeLossy more :=
  decodeLossy_ascii (n := 0x0a) (by decide) bytes more

/-- No bytes spell a newline but a newline. -/
theorem newline_not_mem_decodeLossy {bytes : List UInt8} (h : newline ∉ bytes) :
    '\n' ∉ decodeLossy bytes := by
  intro hmem
  obtain ⟨before, after, hdecode⟩ := List.append_of_mem hmem
  have occurs : occursIn ['\n'] (decodeLossy bytes) = true :=
    occursIn_iff.mpr ⟨before, after, by rw [hdecode]; simp⟩
  obtain ⟨front, rest, hbytes⟩ := (occursIn_decodeLossy_iff (by decide) bytes).mp occurs
  have hencode : encode ['\n'] = [newline] := by decide
  rw [hencode] at hbytes
  exact h (hbytes ▸ by simp)

theorem decodeLossy_eq_nil_iff {bytes : List UInt8} : decodeLossy bytes = [] ↔ bytes = [] := by
  rw [decodeLossy, List.map_eq_nil_iff]
  cases bytes with
  | nil => exact ⟨fun _ => rfl, fun _ => rfl⟩
  | cons octet bytes => simp [scan_ne_nil]

/-- **It makes no difference whether bytes are cut before they are decoded or after.** -/
theorem cutBehind_decodeLossy (bytes : List UInt8) :
    cutBehind '\n' (decodeLossy bytes) = (cutBehind newline bytes).map decodeLossy := by
  induction bytes using byLines newline with
  | last body h =>
      rw [cutBehind_of_not_mem h, cutBehind_of_not_mem (newline_not_mem_decodeLossy h)]
      by_cases empty : body = []
      · rw [if_pos empty, if_pos (decodeLossy_eq_nil_iff.mpr empty)]
        rfl
      · rw [if_neg empty, if_neg (decodeLossy_eq_nil_iff.not.mpr empty)]
        rfl
  | line body rest h ih =>
      rw [decodeLossy_newline, cutBehind_append h, cutBehind_append (newline_not_mem_decodeLossy h),
        ih, List.map_cons, decodeLossy_newline]
      rfl

/-- The texts that the pattern is looked for in, for bytes behind which the input ends. -/
def texts (bytes : List UInt8) : List (List Char) := (allLines bytes).map lineText

/-- The lines of a text without the newlines and carriage returns at their ends. -/
def textLines (s : List Char) : List (List Char) := (cutBehind '\n' s).map trimLineEnd

theorem texts_eq (bytes : List UInt8) : texts bytes = textLines (decodeLossy bytes) := by
  rw [texts, textLines, allLines_eq_cutBehind, cutBehind_decodeLossy, List.map_map]
  rfl

theorem decodeLossy_encode (s : List Char) : decodeLossy (encode s) = s := by
  have h := scan_encode s []
  rw [List.append_nil, show scan none [] = [] from rfl, List.append_nil] at h
  rw [decodeLossy, h, List.map_map]
  exact List.map_id s

/-- A newline separates what stands on its sides. -/
theorem texts_append_newline (before after : List UInt8) :
    texts (before ++ newline :: after) = texts (before ++ [newline]) ++ texts after := by
  rw [texts, texts, texts, ← List.map_append, allLines_eq_cutBehind, allLines_eq_cutBehind,
    allLines_eq_cutBehind, cutBehind_append_mark]

theorem texts_line {line : List UInt8} (h : newline ∉ line) (after : List UInt8) :
    texts (line ++ newline :: after) = lineText line :: texts after := by
  have hline : lineText (line ++ [newline]) = lineText line := by
    rw [lineText_eq, bareLine, List.rdropWhile_concat_pos _ _ _ (by decide), lineText_eq, bareLine]
  rw [texts, texts, allLines_eq_cutBehind, allLines_eq_cutBehind, cutBehind_append h,
    List.map_cons, hline]

/-! ### Carriage returns -/

/-- The bytes with a carriage return in front of each newline. -/
def withReturns (bytes : List UInt8) : List UInt8 :=
  bytes.flatMap fun byte => if byte = newline then [0x0d, newline] else [byte]

theorem withReturns_of_not_mem {body : List UInt8} (h : newline ∉ body) : withReturns body = body := by
  induction body with
  | nil => rfl
  | cons byte body ih =>
      rw [List.mem_cons, not_or] at h
      rw [withReturns, List.flatMap_cons, if_neg (Ne.symm h.1)]
      exact congrArg _ (ih h.2)

theorem texts_withReturns (bytes : List UInt8) : texts (withReturns bytes) = texts bytes := by
  induction bytes using byLines newline with
  | last body h => rw [withReturns_of_not_mem h]
  | line body rest h ih =>
      have hwith : withReturns (body ++ newline :: rest)
          = (body ++ [0x0d]) ++ newline :: withReturns rest := by
        rw [withReturns, List.flatMap_append, ← withReturns, withReturns_of_not_mem h,
          List.flatMap_cons, if_pos rfl, ← withReturns]
        simp
      have hbody : newline ∉ body ++ [0x0d] := by
        simpa [h] using (by decide : newline ≠ 0x0d)
      have hline : lineText (body ++ [0x0d]) = lineText body := by
        rw [lineText_eq, bareLine, List.rdropWhile_concat_pos _ _ _ (by decide), lineText_eq,
          bareLine]
      rw [hwith, texts_line hbody, texts_line h, ih, hline]

/-! ### Runs -/

/-- What a watch hears in reads behind which the input ends. -/
theorem cues_reads (watch : WatchSettings) (reads : List (List UInt8)) :
    ∀ {held : List UInt8}, newline ∉ held →
      cues watch held (reads.map .data ++ [.endOfInput])
        = heard watch (allLines (held ++ reads.flatten)) := by
  induction reads with
  | nil =>
      intro held hheld
      rw [List.map_nil, List.nil_append, cues, List.flatten_nil, List.append_nil, allLines,
        cutLines_of_not_mem hheld]
      dsimp only
      split
      · rfl
      · exact List.append_nil _
  | cons bytes reads ih =>
      intro held hheld
      have heard_append (lines more : List (List UInt8)) :
          heard watch (lines ++ more) = heard watch lines ++ heard watch more := by
        rw [heard, List.map_append, List.filter_append, List.map_append]
        rfl
      rw [List.map_cons, List.cons_append, cues, ih (newline_not_mem_tail _), List.flatten_cons,
        ← List.append_assoc, allLines_append (held ++ bytes), heard_append]

/-- **Lines can be decoded one by one or all at once.**

The texts in which a watch looks for its pattern are the lines of the text that the whole input
spells, and in whatever reads the input arrives the watch comes to what it comes to with the lines
among them that the pattern picks.  So an input in UTF-8 is looked through as it was written.  The
bytes of a line make no difference to the lines in front of it and behind it, and a carriage return
in front of each newline makes none at all. -/
theorem decodes_line_by_line :
    (∀ bytes, texts bytes = textLines (decodeLossy bytes)) ∧
      (∀ s, decodeLossy (encode s) = s ∧ texts (encode s) = textLines s) ∧
      (∀ before line after, newline ∉ line →
        texts (before ++ newline :: (line ++ newline :: after))
          = texts (before ++ [newline]) ++ lineText line :: texts after) ∧
      (∀ bytes, texts (withReturns bytes) = texts bytes) ∧
      ∀ (w : Watchdog) (reads : List (List UInt8)) (heedsInterrupt : Bool),
        let script : Script := { items := reads.map .data, heedsInterrupt }
        let picked := (textLines (decodeLossy reads.flatten)).filter w.watch.picks
        let walked := (w.start script).walk (picked.map .line)
        w.run script = Course.outcome (walked.1, walked.2.getD (.reason .inputClosed)) := by
  refine ⟨texts_eq, fun s => ⟨decodeLossy_encode s, ?_⟩, fun before line after h => ?_,
    texts_withReturns, fun w reads heedsInterrupt => ?_⟩
  · rw [texts_eq, decodeLossy_encode]
  · rw [texts_append_newline, texts_line h]
  · have input : ∀ item ∈ reads.map Item.data, item.isInput = true := by
      intro item hitem
      obtain ⟨bytes, -, rfl⟩ := List.mem_map.mp hitem
      rfl
    have hheard : cues w.watch [] (reads.map .data ++ [.endOfInput])
        = ((textLines (decodeLossy reads.flatten)).filter w.watch.picks).map .line := by
      rw [cues_reads w.watch reads (by simp), List.nil_append, ← texts_eq]
      rfl
    intro script picked walked
    have hrun : w.run script = _ := run_of_input rfl input
    rw [hheard] at hrun
    exact hrun

/-- The line between the newlines ends with the beginning of a character, and the next line begins
with what looks like the rest of it. -/
theorem decodes_line_by_line_around_malformed :
    newline ∉ ([0x61, 0xe2, 0x82] : List UInt8) ∧
      texts ([0xc3] ++ newline :: ([0x61, 0xe2, 0x82] ++ newline :: [0xac, 0x62]))
        = [['\uFFFD'], ['a', '\uFFFD'], ['\uFFFD', 'b']] := by
  have h : newline ∉ ([0x61, 0xe2, 0x82] : List UInt8) := by decide
  refine ⟨h, (decodes_line_by_line.2.2.1 [0xc3] [0x61, 0xe2, 0x82] [0xac, 0x62] h).trans ?_⟩
  decide

end Watchdog

end Tripwire
