/-
How input is cut into reads.

The bytes of an input arrive in reads, and a read can end anywhere: in the middle of a line,
of a character, or between the two characters of a line's end.  `Recut` relates scripts in
which the same bytes arrive in other reads.  A read may be made of several, there may be
reads that bring nothing, and the beginning of a line may arrive later, as long as it
arrives before the rest of the line does and what comes in between has nothing to do with
the input.

To a watch all of them are the script in which each line arrives whole, `gathered`: a line
with a newline as its newline arrives, and the last line as the input ends.  Each step of a
recut leaves that script as it is, `Recut.gathered_eq`.  A watch that goes through it
holds nothing back, and comes to the same as one that holds the beginnings of lines,
`Course.outcome_gathered`.

What is held never contains a newline, `Passes.newline_not_mem_held`.  So at every point of a
run the watch holds a line that has begun, and takes it once: with its newline or at the
end of the input, `Course.TakesLines`.
-/
import Tripwire.Proofs.Watchdog.Course

namespace Tripwire

namespace Watchdog

/-! ### Lines in parts -/

theorem cutLines_newline (rest : List UInt8) :
    cutLines (newline :: rest) = ([newline] :: (cutLines rest).1, (cutLines rest).2) := by
  simp [cutLines]

theorem cutLines_cons {byte : UInt8} (h : byte ≠ newline) (rest : List UInt8) :
    cutLines (byte :: rest) =
      match (cutLines rest).1 with
      | line :: lines => ((byte :: line) :: lines, (cutLines rest).2)
      | [] => ([], byte :: (cutLines rest).2) := by
  cases hrest : cutLines rest with
  | mk lines tail => cases lines <;> simp [cutLines, h, hrest]

/-- Bytes can be cut in two parts, if the beginning of a line is kept from the first for the
second. -/
theorem cutLines_append (bytes more : List UInt8) :
    cutLines (bytes ++ more) =
      ((cutLines bytes).1 ++ (cutLines ((cutLines bytes).2 ++ more)).1,
        (cutLines ((cutLines bytes).2 ++ more)).2) := by
  induction bytes with
  | nil => rfl
  | cons byte rest ih =>
      by_cases h : byte = newline
      · subst h
        rw [List.cons_append, cutLines_newline, cutLines_newline, ih]
        rfl
      · rw [List.cons_append, cutLines_cons h, cutLines_cons h, ih]
        cases (cutLines rest).1 with
        | nil => rw [List.nil_append, List.nil_append, List.cons_append, cutLines_cons h]
        | cons line lines => rfl

/-- No line ends in bytes without a newline. -/
theorem cutLines_of_not_mem {bytes : List UInt8} (h : newline ∉ bytes) :
    cutLines bytes = ([], bytes) := by
  induction bytes with
  | nil => rfl
  | cons byte rest ih =>
      rw [List.mem_cons, not_or] at h
      rw [cutLines_cons (Ne.symm h.1), ih h.2]

/-- The beginning of a line has no newline. -/
theorem newline_not_mem_tail (bytes : List UInt8) : newline ∉ (cutLines bytes).2 := by
  induction bytes with
  | nil => simp [cutLines]
  | cons byte rest ih =>
      by_cases h : byte = newline
      · subst h
        rw [cutLines_newline]
        exact ih
      · rw [cutLines_cons h]
        cases (cutLines rest).1 with
        | nil => exact fun hmem => (List.mem_cons.mp hmem).elim (Ne.symm h) ih
        | cons line lines => exact ih

/-- A line has one newline, at its end. -/
theorem exists_of_mem_cutLines {bytes line : List UInt8} (h : line ∈ (cutLines bytes).1) :
    ∃ body, newline ∉ body ∧ line = body ++ [newline] := by
  induction bytes generalizing line with
  | nil => simp [cutLines] at h
  | cons byte rest ih =>
      by_cases hbyte : byte = newline
      · subst hbyte
        rw [cutLines_newline] at h
        rcases List.mem_cons.mp h with rfl | h
        · exact ⟨[], by simp, rfl⟩
        · exact ih h
      · rw [cutLines_cons hbyte] at h
        cases hlines : (cutLines rest).1 with
        | nil => simp [hlines] at h
        | cons first lines =>
            rw [hlines] at h ih
            rcases List.mem_cons.mp h with rfl | h
            · obtain ⟨body, hbody, rfl⟩ := ih List.mem_cons_self
              refine ⟨byte :: body, ?_, rfl⟩
              exact fun hmem => (List.mem_cons.mp hmem).elim (Ne.symm hbyte) hbody
            · exact ih (List.mem_cons_of_mem _ h)

/-- A line that arrives alone is cut as it is. -/
theorem cutLines_concat {body : List UInt8} (h : newline ∉ body) :
    cutLines (body ++ [newline]) = ([body ++ [newline]], []) := by
  induction body with
  | nil => rfl
  | cons byte rest ih =>
      rw [List.mem_cons, not_or] at h
      rw [List.cons_append, cutLines_cons (Ne.symm h.1), ih h.2]

/-! ### The lines of an input -/

/-- The lines of bytes behind which the input ends: the last line may lack its newline. -/
def allLines (bytes : List UInt8) : List (List UInt8) :=
  (cutLines bytes).1 ++ if (cutLines bytes).2 = [] then [] else [(cutLines bytes).2]

/-- The bytes that arrive. -/
def arrived : List Item → List UInt8
  | [] => []
  | .data bytes :: items => bytes ++ arrived items
  | _ :: items => arrived items

/-- The beginning of a line does not end in the bytes behind it. -/
theorem allLines_append (bytes more : List UInt8) :
    allLines (bytes ++ more) = (cutLines bytes).1 ++ allLines ((cutLines bytes).2 ++ more) := by
  rw [allLines, cutLines_append, List.append_assoc]
  rfl

/-- The beginning of a line as what arrives, if there is one. -/
def remainder (held : List UInt8) : List Item := if held = [] then [] else [.data held]

/-- The script in which each line arrives whole, behind the beginning of a line: as its newline
arrives, or as the input ends. -/
def gathered (held : List UInt8) : List Item → List Item
  | [] => remainder held
  | .data bytes :: items =>
      (cutLines (held ++ bytes)).1.map .data ++ gathered (cutLines (held ++ bytes)).2 items
  | .endOfInput :: items => remainder held ++ .endOfInput :: gathered [] items
  | item :: items => item :: gathered held items

/-- The item is neither bytes that arrive nor the end of the input. -/
def Item.IsOther (item : Item) : Prop := (∀ bytes, item ≠ .data bytes) ∧ item ≠ .endOfInput

theorem Item.arrives_or_other (item : Item) :
    (∃ bytes, item = .data bytes) ∨ item = .endOfInput ∨ item.IsOther := by
  cases item with
  | data bytes => exact .inl ⟨bytes, rfl⟩
  | endOfInput => exact .inr (.inl rfl)
  | _ => exact .inr (.inr (by simp [IsOther]))

theorem gathered_other {item : Item} (other : item.IsOther) (held : List UInt8)
    (items : List Item) : gathered held (item :: items) = item :: gathered held items := by
  cases item with
  | data bytes => exact absurd rfl (other.1 bytes)
  | endOfInput => exact absurd rfl other.2
  | _ => rfl

/-- Whatever arrives is one line, with its newline or with the end of the input behind it. -/
inductive Whole : List Item → Prop
  | nil : Whole []
  | line {body : List UInt8} {items : List Item} :
      newline ∉ body → Whole items → Whole (.data (body ++ [newline]) :: items)
  | last {body : List UInt8} : newline ∉ body → body ≠ [] → Whole [.data body]
  | ended {body : List UInt8} {items : List Item} :
      newline ∉ body → body ≠ [] → Whole items → Whole (.data body :: .endOfInput :: items)
  | other {item : Item} {items : List Item} :
      (∀ bytes, item ≠ .data bytes) → Whole items → Whole (item :: items)

theorem Whole.lines {lines : List (List UInt8)} {items : List Item}
    (each : ∀ line ∈ lines, ∃ body, newline ∉ body ∧ line = body ++ [newline])
    (whole : Whole items) : Whole (lines.map .data ++ items) := by
  induction lines with
  | nil => exact whole
  | cons line lines ih =>
      obtain ⟨body, hbody, rfl⟩ := each line List.mem_cons_self
      exact .line hbody (ih fun line h => each line (List.mem_cons_of_mem _ h))

theorem whole_gathered (items : List Item) : ∀ {held : List UInt8}, newline ∉ held →
    Whole (gathered held items) := by
  induction items with
  | nil =>
      intro held hheld
      rw [gathered, remainder]
      split
      · exact .nil
      · rename_i some
        exact .last hheld some
  | cons item items ih =>
      intro held hheld
      rcases item.arrives_or_other with ⟨bytes, rfl⟩ | rfl | other
      · exact .lines (fun line h => exists_of_mem_cutLines h) (ih (newline_not_mem_tail _))
      · have rest : Whole (gathered [] items) := ih (by simp)
        rw [gathered, remainder]
        split
        · exact .other (by simp) rest
        · rename_i some
          exact .ended hheld some rest
      · rw [gathered_other other]
        exact .other other.1 (ih hheld)

/-! ### Scripts with other cuts -/

/-- The item has nothing to do with the input but that it takes time: the breaker is used by
somebody else, or looked at, or nothing arrives. -/
def Item.isAside : Item → Bool
  | .sleep _ | .report _ | .activate | .deactivate | .glance => true
  | _ => false

/-- The same bytes arrive in both scripts, but they are cut into reads in different ways. -/
inductive Recut : List Item → List Item → Prop
  /-- What arrives in one read arrives in two. -/
  | split (bytes more : List UInt8) (items : List Item) :
      Recut (.data (bytes ++ more) :: items) (.data bytes :: .data more :: items)
  /-- A read brings nothing. -/
  | idle (items : List Item) : Recut items (.data [] :: items)
  /-- The beginning of a line arrives with what comes behind it. -/
  | later {bytes body more : List UInt8} {aside items : List Item} :
      newline ∉ body → (∀ item ∈ aside, item.isAside = true) →
      Recut (.data (bytes ++ body) :: (aside ++ .data more :: items))
        (.data bytes :: (aside ++ .data (body ++ more) :: items))
  | cons (item : Item) {items items' : List Item} :
      Recut items items' → Recut (item :: items) (item :: items')
  | refl (items : List Item) : Recut items items
  | symm {items items' : List Item} : Recut items items' → Recut items' items
  | trans {items items' items'' : List Item} :
      Recut items items' → Recut items' items'' → Recut items items''

/-- What has nothing to do with the input leaves the beginning of a line as it is. -/
theorem gathered_aside {aside : List Item} (h : ∀ item ∈ aside, item.isAside = true)
    (held : List UInt8) (items : List Item) :
    gathered held (aside ++ items) = aside ++ gathered held items := by
  induction aside with
  | nil => rfl
  | cons item aside ih =>
      have ih := ih fun item h' => h item (List.mem_cons_of_mem _ h')
      have hitem := h item List.mem_cons_self
      rcases item.arrives_or_other with ⟨bytes, rfl⟩ | rfl | other
      · simp [Item.isAside] at hitem
      · simp [Item.isAside] at hitem
      · rw [List.cons_append, gathered_other other, ih, List.cons_append]

/-- **With other cuts the same lines arrive whole.** -/
theorem Recut.gathered_eq {items items' : List Item} (recut : Recut items items') :
    ∀ {held : List UInt8}, newline ∉ held → gathered held items = gathered held items' := by
  induction recut with
  | split bytes more items =>
      intro held _
      rw [gathered, gathered, gathered, ← List.append_assoc, cutLines_append (held ++ bytes),
        List.map_append, List.append_assoc]
  | idle items =>
      intro held hheld
      rw [gathered, List.append_nil, cutLines_of_not_mem hheld]
      rfl
  | @later bytes body more aside items hbody haside =>
      intro held _
      have tail := newline_not_mem_tail (held ++ bytes)
      have hlater : newline ∉ (cutLines (held ++ bytes)).2 ++ body := by
        simp [tail, hbody]
      have hfirst : cutLines (held ++ (bytes ++ body))
          = ((cutLines (held ++ bytes)).1, (cutLines (held ++ bytes)).2 ++ body) := by
        rw [← List.append_assoc, cutLines_append, cutLines_of_not_mem hlater, List.append_nil]
      rw [gathered, gathered, gathered_aside haside, gathered_aside haside, gathered, gathered,
        hfirst, List.append_assoc]
  | cons item _ ih =>
      intro held hheld
      rcases item.arrives_or_other with ⟨bytes, rfl⟩ | rfl | other
      · rw [gathered, gathered, ih (newline_not_mem_tail _)]
      · rw [gathered, gathered, ih (by simp)]
      · rw [gathered_other other, gathered_other other, ih hheld]
  | refl items => intro held _; rfl
  | symm _ ih => intro held hheld; exact (ih hheld).symm
  | trans _ _ ih ih' => intro held hheld; exact (ih hheld).trans (ih' hheld)

/-! ### Watches that hold nothing back -/

namespace Course

variable {heeds : Bool}

theorem takeLines_hold (c : Course) (held : List UInt8) (lines : List (List UInt8)) :
    { c with held }.takeLines lines
      = ({ (c.takeLines lines).1 with held }, (c.takeLines lines).2) := by
  rw [takeLines_eq_walk, takeLines_eq_walk]
  exact walk_hold held _ c

theorem takeLine_hold (c : Course) (held line : List UInt8) :
    { c with held }.takeLine line = ({ (c.takeLine line).1 with held }, (c.takeLine line).2) := by
  rw [← takeLines_singleton, ← takeLines_singleton]
  exact takeLines_hold c held [line]

/-- Bytes are taken as the lines that they bring to an end. -/
theorem takeBytes_hold (c : Course) (held bytes : List UInt8) :
    { c with held }.takeBytes bytes
      = ({ (c.takeLines (cutLines (held ++ bytes)).1).1 with
            held := (cutLines (held ++ bytes)).2 },
          (c.takeLines (cutLines (held ++ bytes)).1).2) :=
  takeLines_hold c _ _

/-- What is neither bytes nor the end of the input leaves the beginning of a line alone. -/
theorem take_hold (c : Course) (held : List UInt8) {item : Item}
    (other : item.IsOther) :
    { c with held }.take heeds item
      = ({ (c.take heeds item).1 with held }, (c.take heeds item).2) := by
  cases item with
  | data bytes => exact absurd rfl (other.1 bytes)
  | endOfInput => exact absurd rfl other.2
  | failure e =>
      rw [take, take]
      split <;> rfl
  | _ => rfl

/-- A line leaves alone what is held behind it. -/
theorem held_takeLine (c : Course) (line : List UInt8) : (c.takeLine line).1.held = c.held :=
  congrArg (fun taken => taken.1.held) (takeLine_hold c c.held line)

theorem held_take_other (c : Course) {item : Item} (other : item.IsOther) :
    (c.take heeds item).1.held = c.held :=
  congrArg (fun taken => taken.1.held) (take_hold c c.held other)

/-- Lines that arrive one by one are taken as they are, and nothing is held. -/
theorem follow_lines {lines : List (List UInt8)}
    (each : ∀ line ∈ lines, ∃ body, newline ∉ body ∧ line = body ++ [newline])
    (items : List Item) : ∀ c : Course,
      { c with held := [] }.follow heeds (lines.map Item.data ++ items)
        = proceed heeds items ({ (c.takeLines lines).1 with held := [] }, (c.takeLines lines).2) := by
  induction lines with
  | nil => intro c; rfl
  | cons line lines ih =>
      intro c
      obtain ⟨body, hbody, rfl⟩ := each line List.mem_cons_self
      have ih := ih fun line h => each line (List.mem_cons_of_mem _ h)
      have hline : { c with held := [] }.take heeds (.data (body ++ [newline]))
          = ({ (c.takeLine (body ++ [newline])).1 with held := [] },
            (c.takeLine (body ++ [newline])).2) := by
        rw [take, takeBytes_hold, List.nil_append, cutLines_concat hbody, takeLines_singleton]
      rw [List.map_cons, List.cons_append, follow_cons, hline, takeLines]
      cases c.takeLine (body ++ [newline]) with
      | mk next ending =>
          cases ending with
          | none => exact ih next
          | some ending => rfl

/-- The beginning of a line arrives, and nothing else happens yet. -/
theorem follow_remainder {held : List UInt8} (h : newline ∉ held) (items : List Item)
    (c : Course) :
    { c with held := [] }.follow heeds (remainder held ++ items)
      = { c with held }.follow heeds items := by
  rw [remainder]
  split
  · rename_i none
    rw [none]
    rfl
  · rw [List.singleton_append, follow_cons, take, takeBytes_hold, List.nil_append,
      cutLines_of_not_mem h]
    rfl

/-- **A watch comes to the same if each line arrives whole.** -/
theorem outcome_gathered (items : List Item) : ∀ {held : List UInt8}, newline ∉ held →
    ∀ c : Course, outcome ({ c with held := [] }.follow heeds (gathered held items))
      = outcome ({ c with held }.follow heeds items) := by
  induction items with
  | nil =>
      intro held hheld c
      have remains : { c with held := [] }.follow heeds (remainder held ++ [])
          = { c with held }.follow heeds [] := follow_remainder hheld [] c
      rw [List.append_nil] at remains
      rw [gathered, remains]
  | cons item items ih =>
      intro held hheld c
      -- What an item does is the same in both, and the rest is as well.
      have further (next : Course) (ending : Option Ending) {held : List UInt8}
          (hheld : newline ∉ held) :
          outcome (proceed heeds (gathered held items) ({ next with held := [] }, ending))
            = outcome (proceed heeds items ({ next with held }, ending)) := by
        cases ending with
        | none => exact ih hheld next
        | some ending =>
            exact (outcome_hold next [] ending).trans (outcome_hold next held ending).symm
      rcases item.arrives_or_other with ⟨bytes, rfl⟩ | rfl | other
      · rw [gathered, follow_lines (fun line h => exists_of_mem_cutLines h), follow_cons, take,
          takeBytes_hold]
        exact further _ _ (newline_not_mem_tail _)
      · rw [gathered, follow_remainder hheld, follow_cons, follow_cons, take, takeEnd]
        split
        · rfl
        · rw [takeLine_hold c []]
          exact further _ _ (by simp)
      · rw [gathered_other other, follow_cons, follow_cons, take_hold c [] other,
          take_hold c held other]
        exact further _ _ hheld

/-! ### Lines that are taken once -/

/-- How a watch takes the line that has begun: once and whole, when its newline arrives or
the input ends behind it. -/
structure TakesLines (heeds : Bool) (c : Course) : Prop where
  /-- What arrives without a newline is held, and that is all. -/
  part {body : List UInt8} : newline ∉ body →
    c.take heeds (.data body) = ({ c with held := c.held ++ body }, none)
  /-- As the newline arrives, all of the line is taken. -/
  line {body : List UInt8} (items : List Item) : newline ∉ body →
    c.follow heeds (.data (body ++ [newline]) :: items)
      = proceed heeds items ({ c with held := [] }.takeLine (c.held ++ body ++ [newline]))
  /-- If the input ends once, what is held is taken as a line, -/
  ended (items : List Item) : c.held ≠ [] →
    c.follow heeds (.endOfInput :: items)
      = proceed heeds items ({ c with held := [] }.takeLine c.held)
  /-- and so it is if the input ends for good. -/
  last : c.held ≠ [] →
    c.follow heeds [] = proceed heeds [] ({ c with held := [] }.takeLine c.held)
  /-- If nothing is held, there is no line left, and the watch is over. -/
  closed (items : List Item) : c.held = [] →
    c.follow heeds (.endOfInput :: items) = (c, .reason .inputClosed) ∧
      c.follow heeds [] = (c, .reason .inputClosed)
  /-- Nothing of a line is held behind it. -/
  taken (line : List UInt8) : ({ c with held := [] }.takeLine line).1.held = []
  /-- Whatever else happens leaves the line that has begun as it is. -/
  apart {item : Item} : item.IsOther → (c.take heeds item).1.held = c.held

/-- What is held has no newline, whatever happens. -/
theorem newline_not_mem_take {c : Course} (h : newline ∉ c.held) (item : Item) :
    newline ∉ (c.take heeds item).1.held := by
  rcases item.arrives_or_other with ⟨bytes, rfl⟩ | rfl | other
  · have taken : (c.take heeds (.data bytes)).1.held = (cutLines (c.held ++ bytes)).2 :=
      congrArg (fun taken => taken.1.held) (takeBytes_hold c c.held bytes)
    rw [taken]
    exact newline_not_mem_tail _
  · rw [take, takeEnd]
    split
    · exact h
    · rw [held_takeLine]
      simp
  · rw [held_take_other c other]
    exact h

theorem Passes.newline_not_mem_held {c c' : Course} {items : List Item}
    (passes : Passes heeds c items c') (h : newline ∉ c.held) : newline ∉ c'.held := by
  induction passes with
  | nil => exact h
  | @cons c next last item items htake _ ih =>
      have hnext : newline ∉ (c.take heeds item).1.held := newline_not_mem_take h item
      rw [htake] at hnext
      exact ih hnext

/-- **A watch that holds the beginning of a line takes that line once.** -/
theorem takesLines {c : Course} (h : newline ∉ c.held) : c.TakesLines heeds where
  part {body} hbody := by
    have none_ends : newline ∉ c.held ++ body := by simp [h, hbody]
    rw [take, takeBytes, cutLines_of_not_mem none_ends]
    rfl
  line {body} items hbody := by
    have whole : newline ∉ c.held ++ body := by simp [h, hbody]
    rw [follow_cons, take, takeBytes, ← List.append_assoc, cutLines_concat whole]
    exact congrArg (proceed heeds items) (takeLines_singleton { c with held := [] } _)
  ended items some := by rw [follow_cons, take, takeEnd, if_neg some]
  last some := by
    have behind := held_takeLine { c with held := [] } c.held
    rw [follow, takeEnd, if_neg some]
    cases htake : { c with held := [] }.takeLine c.held with
    | mk next ending =>
        rw [htake] at behind
        cases ending with
        | none => rw [proceed, follow, takeEnd, if_pos behind]
        | some ending => rfl
  closed items none := by
    rw [follow_cons, take, follow, takeEnd, if_pos none]
    exact ⟨rfl, rfl⟩
  taken line := held_takeLine _ line
  apart other := held_take_other c other

end Course

/-- **However the bytes of an input are cut into reads, a run comes to the same.**

What it has come to, the state that it leaves behind and all that has happened in it are as they
are if each line arrives whole, as its newline arrives or as the input ends behind it.  At
every point that the run comes to, the line that has begun is held until then, and is taken
once and whole. -/
theorem indifferent_to_cuts (w : Watchdog) (script : Script) :
    (∀ items, Recut script.items items → w.run { script with items } = w.run script) ∧
      w.run { script with items := gathered [] script.items } = w.run script ∧
      Whole (gathered [] script.items) ∧
      ∀ before after c, script.items = before ++ after → script.requests = 0 →
        Course.Passes script.heedsInterrupt (w.start script) before c →
          w.run script = Course.outcome (c.follow script.heedsInterrupt after) ∧
            c.TakesLines script.heedsInterrupt := by
  have whole (items : List Item) :
      w.run { script with items := gathered [] items } = w.run { script with items } := by
    by_cases asked : script.requests = 0
    · have unasked (items : List Item) : Script.requests { script with items } = 0 := asked
      rw [run_of_unasked w (unasked _), run_of_unasked w (unasked _)]
      exact Course.outcome_gathered items (by simp) (w.start script)
    · have asked' (items : List Item) : Script.requests { script with items } ≠ 0 := asked
      rw [run_of_asked w (asked' _), run_of_asked w (asked' _)]
      rfl
  refine ⟨?_, whole script.items, whole_gathered script.items (by simp), ?_⟩
  · intro items recut
    rw [← whole items, ← recut.gathered_eq (by simp)]
    exact whole script.items
  · intro before after c hitems unasked passes
    have nothing_held : newline ∉ (w.start script).held := by
      rw [show (w.start script).held = [] from rfl]
      simp
    refine ⟨?_, Course.takesLines (passes.newline_not_mem_held nothing_held)⟩
    rw [run_of_unasked w unasked, hitems, passes.follow]

/-- A line whose newline arrives some time after the rest of it. -/
def lineThenNewline : Script :=
  { items := [.data [0xc3, 0xa9, 0x0d], .sleep 3, .data [0x0a]] }

/-- The same line with a cut through its only character, and with a read that brings nothing. -/
def lineInParts : List Item := [.data [0xc3], .data [], .sleep 3, .data [0xa9, 0x0d, 0x0a]]

/-- A character that is cut through, behind which the input ends. -/
def characterAtTheEnd : Script := { items := [.data [0xc3], .data [0xa9]] }

/-- A watch for that character, which is over with the first line that has it. -/
def forCharacter : Watchdog where
  watch := { pattern := "é" }
  circuit := { settings := { limit := 1 }, sink := .logging }

/-- A cut through a character makes no difference to a watch for that character: the line
with it is taken as its newline arrives, and the last line as the input ends. -/
theorem indifferent_to_cuts_of_character :
    let w := forCharacter
    let begun : Course :=
      { (w.start lineThenNewline).onCircuit (·.pass 3) with held := [0xc3, 0xa9, 0x0d] }
    let last : Course := { w.start characterAtTheEnd with held := [0xc3, 0xa9] }
    let found : Except ReadError Summary := .ok { reason := .tripped, reported := 1, trips := 1 }
    (Recut lineThenNewline.items lineInParts ∧
      w.run { lineThenNewline with items := lineInParts } = w.run lineThenNewline ∧
      gathered [] lineThenNewline.items = [.sleep 3, .data [0xc3, 0xa9, 0x0d, 0x0a]]) ∧
    ((w.run lineThenNewline).2 = some found ∧
      Course.Passes false (w.start lineThenNewline) [.data [0xc3, 0xa9, 0x0d], .sleep 3] begun ∧
      w.run lineThenNewline = Course.outcome
        (Course.proceed false [] ({ begun with held := [] }.takeLine [0xc3, 0xa9, 0x0d, 0x0a]))) ∧
    (w.run characterAtTheEnd).2 = some found ∧
      Course.Passes false (w.start characterAtTheEnd) characterAtTheEnd.items last ∧
      w.run characterAtTheEnd = Course.outcome
        (Course.proceed false [] ({ last with held := [] }.takeLine [0xc3, 0xa9])) := by
  have body : newline ∉ ([0xa9, 0x0d] : List UInt8) := by decide
  have aside : ∀ item ∈ [Item.sleep 3], item.isAside = true := by simp [Item.isAside]
  have later : Recut (.data ([0xc3] ++ [0xa9, 0x0d]) :: ([.sleep 3] ++ .data [0x0a] :: []))
      (.data [0xc3] :: ([.sleep 3] ++ .data ([0xa9, 0x0d] ++ [0x0a]) :: [])) := .later body aside
  have recut : Recut lineThenNewline.items lineInParts := later.trans (.cons _ (.idle _))
  have begins : Course.Passes false (forCharacter.start lineThenNewline)
      [.data [0xc3, 0xa9, 0x0d], .sleep 3] _ := .cons rfl (.cons rfl (.nil _))
  have passes : Course.Passes false (forCharacter.start characterAtTheEnd)
      characterAtTheEnd.items _ := .cons rfl (.cons rfl (.nil _))
  refine ⟨⟨recut, (indifferent_to_cuts _ lineThenNewline).1 lineInParts recut, by rfl⟩,
    ⟨by rfl, begins, ?_⟩, by rfl, passes, ?_⟩
  · obtain ⟨rest, takes⟩ :=
      (indifferent_to_cuts forCharacter lineThenNewline).2.2.2 _ [.data [0x0a]] _ rfl rfl begins
    exact rest.trans (congrArg Course.outcome (takes.line [] (List.not_mem_nil (a := newline))))
  · obtain ⟨rest, takes⟩ :=
      (indifferent_to_cuts forCharacter characterAtTheEnd).2.2.2 _ [] _ rfl rfl passes
    exact rest.trans (congrArg Course.outcome (takes.last (by decide)))

end Watchdog

end Tripwire
