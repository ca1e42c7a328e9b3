/-
The warning of a trip, and that it cannot be made to look like another one.

The text of a warning has four parts that vary: the limit, the cooldown, the cycle and the errors.
The first three end at a space or a colon, and no part has the character in it that it ends at.
The last one is a list of quoted texts, and says by itself where each of them ends.  So the parts
can be taken off one after the other, `Breaker.of_warning_eq`, and whatever has been reported is an
entry of the list and nothing more.

In a run a warning is told of a report that trips the breaker and of nothing else, and it lists the
errors of the tally, `Chronicle.warns`.  If all that is reported are strings it has the form that
can be read.
-/
import Mathlib.Data.Set.List
import Tripwire.Proofs.Breaker.Annals
import Tripwire.Proofs.Breaker.Diagnosis
import Tripwire.Proofs.Duration

namespace Tripwire

/-! ### Warnings -/

namespace Breaker

variable (plain : Char → Bool) (s : BreakerSettings)

/-- The warning that a trip over texts has told, given which characters are plain. -/
def warning (cycle : Nat) (errors : List String) : String :=
  Notice.text s <| .tripped cycle <| Text.bracketed <| errors.map fun e =>
    String.ofList (Text.Quoted.encode plain e.toList)

theorem toList_warning (cycle : Nat) (errors : List String) :
    (warning plain s cycle errors).toList
      = "tripped: ".toList ++ ((Nat.toDigits 10 s.limit.toNat ++ [' ']) ++
        ("errors within ".toList ++ (((Duration.millisText s.cooldownMs).toList ++ [' ']) ++
        ("of each other in cycle ".toList ++ ((Nat.toDigits 10 cycle ++ [':']) ++
        ([' '] ++ Text.Quoted.brackets plain (errors.map String.toList))))))) := by
  have list := Text.Quoted.toList_bracketed plain errors
  have within : " errors within ".toList = [' '] ++ "errors within ".toList := rfl
  have ofEachOther : " of each other in cycle ".toList
      = [' '] ++ "of each other in cycle ".toList := rfl
  have colon : ": ".toList = [':'] ++ [' '] := rfl
  show ("tripped: " ++ toString s.limit.toNat ++ " errors within "
    ++ Duration.millisText s.cooldownMs ++ " of each other in cycle " ++ toString cycle ++ ": "
    ++ Text.bracketed _).toList = _
  simp only [String.toList_append, list, within, ofEachOther, colon, Nat.toString_eq_repr,
    Nat.toList_repr, List.append_assoc]

variable {plain s}

/-- What a warning is about can be read off it. -/
theorem of_warning_eq {s' : BreakerSettings} {cycle cycle' : Nat} {errors errors' : List String}
    (h : warning plain s cycle errors = warning plain s' cycle' errors') :
    s.limit = s'.limit ∧ s.cooldownMs = s'.cooldownMs ∧ cycle = cycle' ∧ errors = errors' := by
  have whole := congrArg String.toList h
  rw [toList_warning, toList_warning] at whole
  obtain ⟨limit, behind⟩ := Text.selfDelimiting_number rfl (List.append_cancel_left whole)
  obtain ⟨cooldown, behind⟩ :=
    Duration.selfDelimiting_millisText (List.append_cancel_left behind)
  obtain ⟨cycles, behind⟩ := Text.selfDelimiting_number rfl (List.append_cancel_left behind)
  have lists := (Text.Quoted.selfDelimiting_brackets plain).injective
    (List.append_cancel_left behind)
  have texts : Function.Injective (List.map String.toList) :=
    List.map_injective_iff.mpr fun _ _ => String.toList_injective
  exact ⟨UInt64.toNat_inj.mp limit, cooldown, cycles, texts lists⟩

theorem oneLine_warning (cycle : Nat) (errors : List String) :
    Text.OneLine (warning plain s cycle errors).toList := by
  have number (n : Nat) := Text.oneLine_toDigits (b := 10) (by omega) (by omega) n
  rw [toList_warning]
  simp only [Text.oneLine_append, number, Duration.oneLine_millisText,
    Text.Quoted.oneLine_brackets, true_and, and_true]
  simp [Text.OneLine]

/-- A breaker whose errors are strings tells nothing but the warning, and it tells that when the
error that is reported brings them to the limit. -/
theorem text_of_report {b : Breaker} {errors : List String} (strings : b.errors = errors.map .text)
    (now : Nat) (error : String) :
    (lines (b.addError s now (.text error)).emissions).map (Notice.text s) =
      if b.active = true ∧ s.limit.toNat ≤ errors.length + 1 then
        [warning Text.isPlain s b.cycle (errors ++ [error])]
      else [] := by
  have current : b.current = errors.length := by simp [Breaker.current, strings]
  have printed : Report.printList (b.errors ++ [.text error])
      = .ok (Text.bracketed ((errors ++ [error]).map Text.quote)) := by
    rw [strings, ← Report.printList_map_text]
    simp
  cases going : b.active with
  | false => simp [addError, going]
  | true =>
      by_cases reached : s.limit.toNat ≤ errors.length + 1
      · rw [addError_of_le going (current ▸ reached) printed, if_pos ⟨rfl, reached⟩]
        rfl
      · rw [addError_of_lt going (by omega), if_neg (fun h => reached h.2)]
        rfl

end Breaker

/-! ### Runs -/

variable {α : Type} {s : BreakerSettings} {b : Breaker}

/-- The line warns of the deed: it names the cycle and lists the errors of the tally. -/
def Warns (past : List Deed) (d : Deed) (n : Notice) : Prop :=
  ∃ text, Report.printList (reported (tally (past ++ [d]))) = .ok text ∧
    n = .tripped d.before.cycle text

theorem Breaker.Finds.warns {past : List Deed} {d : Deed} (finds : Finds s past d) {n : Notice}
    (told : n ∈ lines (d.effect s).emissions) (warning : n.isWarning = true) :
    Warns past d n := by
  obtain ⟨time, b, move⟩ := d
  cases finds.outcome with
  | idle _ _ _ emissions _ _ _ _ =>
      rw [emissions] at told
      cases told
  | begins _ emissions _ _ _ _ =>
      rw [emissions] at told
      cases going : b.active with
      | false =>
          obtain rfl : n = .started (b.cycle + 1) := by simpa [going] using told
          cases warning
      | true =>
          have news : n = .superseded b.cycle ∨ n = .started (b.cycle + 1) := by
            simpa [going] using told
          rcases news with rfl | rfl <;> cases warning
  | ends _ emissions _ _ _ _ =>
      rw [emissions] at told
      obtain rfl : n = .deactivated b.cycle := by simpa using told
      cases warning
  | counts _ _ _ emissions _ _ _ _ =>
      rw [emissions] at told
      cases told
  | trips e text going _ printed emissions _ _ _ _ =>
      rw [emissions] at told
      obtain rfl : n = .tripped b.cycle text := by simpa using told
      rw [finds.errors_append rfl going] at printed
      exact ⟨text, printed, rfl⟩
  | clears _ _ _ _ _ emissions _ _ _ _ =>
      rw [emissions] at told
      obtain rfl : n = .cleared b.current := by simpa using told
      cases warning

/-- **Every warning is of a trip.** -/
theorem Chronicle.warns {j : List (Happening α)} (chronicle : Chronicle s {} j b)
    (valid : 0 < s.limit.toNat) {n : Notice} (told : n ∈ lines (Journal.told j))
    (warning : n.isWarning = true) :
    ∃ past d rest, Journal.deeds j = past ++ d :: rest ∧ Warns past d n := by
  induction chronicle with
  | nil => cases told
  | @deed j b time move before held _ ih =>
      rw [Journal.told_append, Journal.told_did, Journal.told_news, lines_append] at told
      rw [Journal.deeds_append, Journal.deeds_did, Journal.deeds_news]
      rcases List.mem_append.mp told with earlier | now
      · obtain ⟨past, d, rest, heq, warns⟩ := ih earlier
        exact ⟨past, d, rest ++ [⟨time, b, move⟩], by simp [heq], warns⟩
      · have sound := Breaker.sound_of_passage before.passage valid held
        have finds : Breaker.Finds s (Journal.deeds j) ⟨time, b, move⟩ :=
          ⟨sound, Breaker.tallied_of_passage before.passage valid, sound.outcome time move⟩
        obtain ⟨e, he, heq⟩ := List.mem_filterMap.mp now
        have told' := List.mem_filterMap.mpr ⟨e, mem_of_mem_promptly he, heq⟩
        exact ⟨_, _, [], rfl, finds.warns told' warning⟩
  | late k _ ih =>
      rw [Journal.told_append, lines_append] at told
      rcases List.mem_append.mp told with earlier | now
      · simpa using ih earlier
      · obtain rfl : n = .started k := by simpa using now
        cases warning
  | answer op a _ ih => simpa using ih (by simpa using told)

/-- A line that the sink shows has been told, or one that reads the same. -/
theorem Circuit.exists_told {c : Circuit α} {j : List (Happening α)} {n : Notice}
    (shown : c.sink.event c.settings n ∈ Journal.events c.eventOf j) :
    ∃ n' ∈ lines (Journal.told j), n'.isWarning = n.isWarning ∧
      n'.text c.settings = n.text c.settings := by
  have line : (c.sink.event c.settings n).isLine = true := by
    cases c.sink <;> rfl
  have among : c.sink.event c.settings n ∈ (Journal.events c.eventOf j).filter Event.isLine :=
    List.mem_filter.mpr ⟨shown, line⟩
  rw [c.filter_isLine_events] at among
  obtain ⟨n', told, same⟩ := List.mem_map.mp among
  refine ⟨n', told, ?_⟩
  cases hsink : c.sink with
  | keeping =>
      rw [hsink] at same
      cases same
      exact ⟨rfl, rfl⟩
  | logging =>
      simp only [hsink, Sink.event, Event.record.injEq, Record.mk.injEq, true_and, and_true] at same
      obtain ⟨level, text⟩ := same
      refine ⟨?_, text⟩
      cases hn : n.isWarning <;> cases hn' : n'.isWarning <;> simp [hn, hn'] at level <;> rfl

namespace Session

/-- **The warning of a trip over strings is unambiguous and stays on one line.**

Whichever characters are plain, two warnings read the same only if they have the same limit,
cooldown and cycle and list the same errors, and none has a character that ends a line or moves on
it.  It is these warnings that a breaker with strings for errors tells, and no others in a whole
run. -/
theorem warns_unambiguously (plain : Char → Bool) :
    (∀ (s s' : BreakerSettings) (cycle cycle' : Nat) (errors errors' : List String),
      Breaker.warning plain s cycle errors = Breaker.warning plain s' cycle' errors' →
        s.limit = s'.limit ∧ s.cooldownMs = s'.cooldownMs ∧ cycle = cycle' ∧ errors = errors') ∧
    (∀ (s : BreakerSettings) (cycle : Nat) (errors : List String),
      ∀ c ∈ (Breaker.warning plain s cycle errors).toList, c ∉ ['\n', '\r', '\t', '\x00']) ∧
    (∀ (s : BreakerSettings) (b : Breaker) (errors : List String), b.errors = errors.map .text →
      ∀ (now : Nat) (error : String),
        (lines (b.addError s now (.text error)).emissions).map (Notice.text s) =
          if b.active = true ∧ s.limit.toNat ≤ errors.length + 1 then
            [Breaker.warning Text.isPlain s b.cycle (errors ++ [error])]
          else []) ∧
    (∀ (hasRuntime : Bool) (settings : BreakerSettings) (sink : Sink α) (c : Circuit α),
      Circuit.create hasRuntime settings sink = .ok c → ∀ steps : List (Step α),
        let start : Session α := { circuit := c }
        (∀ e ∈ reported (start.history steps), ∃ error, e = .text error) →
          ∀ n, n.isWarning = true →
            sink.event settings n ∈ (start.run steps).flatMap Snapshot.events →
              ∃ past d rest errors, start.history steps = past ++ d :: rest ∧
                reported (tally (past ++ [d])) = errors.map .text ∧
                n.text settings
                  = Breaker.warning Text.isPlain settings d.before.cycle errors) := by
  refine ⟨fun _ _ _ _ _ _ h => Breaker.of_warning_eq h,
    fun _ cycle errors => Breaker.oneLine_warning cycle errors,
    fun _ _ _ strings now error => Breaker.text_of_report strings now error, ?_⟩
  intro hasRuntime settings sink c made steps start strings n warning shown
  obtain ⟨rfl, valid, -⟩ := Circuit.of_create made
  have recorded := records_after (s := { circuit := { settings, sink } }) (fun _ => rfl) rfl steps
  rw [recorded.events] at shown
  obtain ⟨n', told, warning', text⟩ := Circuit.exists_told shown
  obtain ⟨past, d, rest, heq, written, printed, rfl⟩ :=
    recorded.chronicle.warns valid told (warning'.trans warning)
  rw [recorded.deeds] at heq
  have range : reported (tally (past ++ [d])) ∈ Set.range (List.map Report.text) := by
    rw [Set.range_list_map]
    intro e he
    obtain ⟨error, rfl⟩ := strings e (heq ▸ mem_reported_of_concat (mem_reported_of_tally he))
    exact ⟨error, rfl⟩
  obtain ⟨errors, herrors⟩ := range
  rw [← herrors, Report.printList_map_text] at printed
  obtain rfl := Except.ok.inj printed
  exact ⟨past, d, rest, errors, heq, herrors.symm, text.symm⟩

/-- A breaker without reactions. -/
def ofLines : Session Unit :=
  { circuit := { settings := { limit := 2, cooldownMs := 1500 }, sink := .keeping [] [] } }

/-- A line that has the look of two entries, and one that breaks. -/
def hostileLines : List String := ["a\", \"b", "\n"]

/-- A cycle in which these lines are reported. -/
def reportHostile : List (Step Unit) :=
  .operate 0 .activate :: hostileLines.map fun line => .operate 0 (.addError (.text line))

/-- What the trip over them tells. -/
def hostileTrip : Notice := .tripped 1 "[\"a\\\", \\\"b\", \"\\n\"]"

/-- The lines are two entries of the warning, on one line, and what has been reported can be read
off it again. -/
theorem warns_unambiguously_of_hostile_lines :
    Circuit.create true ofLines.circuit.settings ofLines.circuit.sink = .ok ofLines.circuit ∧
      (∀ e ∈ reported (ofLines.history reportHostile), ∃ error, e = .text error) ∧
      hostileTrip.isWarning = true ∧
      .notice hostileTrip ∈ (ofLines.run reportHostile).flatMap Snapshot.events ∧
      (∃ past d rest, ofLines.history reportHostile = past ++ d :: rest ∧ d.before.cycle = 1 ∧
        reported (tally (past ++ [d])) = hostileLines.map .text) ∧
      (∀ c ∈ (hostileTrip.text ofLines.circuit.settings).toList,
        c ∉ ['\n', '\r', '\t', '\x00']) ∧
      let b : Breaker := { active := true, errors := [.text "a\", \"b"], cycle := 1 }
      (lines (b.addError ofLines.circuit.settings 0 (.text "\n")).emissions).map
          (Notice.text ofLines.circuit.settings)
        = [hostileTrip.text ofLines.circuit.settings] := by
  obtain ⟨apart, oneLine, told, run⟩ := warns_unambiguously (α := Unit) Text.isPlain
  have strings : ∀ e ∈ reported (ofLines.history reportHostile), ∃ error, e = .text error := by
    have texts : reported (ofLines.history reportHostile) = hostileLines.map .text := rfl
    rw [texts]
    simp
  have shown : .notice hostileTrip ∈ (ofLines.run reportHostile).flatMap Snapshot.events := by
    have notices : ((ofLines.run reportHostile).flatMap Snapshot.events).filterMap Event.notice?
        = [.started 1, hostileTrip] := by decide +kernel
    have among : hostileTrip
        ∈ ((ofLines.run reportHostile).flatMap Snapshot.events).filterMap Event.notice? := by
      simp [notices]
    obtain ⟨e, he, heq⟩ := List.mem_filterMap.mp among
    cases e with
    | notice n => exact Option.some.inj heq ▸ he
    | _ => cases heq
  have text : hostileTrip.text ofLines.circuit.settings
      = Breaker.warning Text.isPlain ofLines.circuit.settings 1 hostileLines := by decide +kernel
  obtain ⟨past, d, rest, errors, heq, list, read⟩ :=
    run true ofLines.circuit.settings ofLines.circuit.sink _ rfl reportHostile strings hostileTrip
      rfl shown
  obtain ⟨-, -, cycle, same⟩ := apart _ _ _ _ _ _ (text.symm.trans read)
  refine ⟨rfl, strings, rfl, shown, ⟨past, d, rest, heq, cycle.symm, same ▸ list⟩, ?_, ?_⟩
  · rw [text]
    exact oneLine _ 1 hostileLines
  · rw [text]
    exact told _ _ ["a\", \"b"] rfl 0 "\n"

end Session

end Tripwire
