/-
What every document has in common, however it is written.

A table has each of its keys once, and an integer has 64 bits with a sign.  Such a value is
`Value.Tidy`, down to whatever is nested in it, and `tidy_document?` says that a text which is
a document at all is read as a tidy table.

Integers are refused where they are read.  Keys are another matter: a table is put together
from statements that may stand far from each other, and it is the nodes of the unfinished
document that refuse a key which is there already.  So the nodes have a tidiness of their own,
each change of them keeps it, `Entries.Tidy.assign` and its kin, and a tidy node ends up as a
tidy value, `Node.Tidy.close`.
-/
import Mathlib.Data.List.Nodup
import Tripwire.Toml.Document

namespace Tripwire.Toml

/-- Every table in the value has each key once, and every integer has 64 bits with a sign. -/
inductive Value.Tidy : Value → Prop
  | string (s : String) : Tidy (.string s)
  | integer {n : Int} (low : -(Nat.pow 2 63 : Nat) ≤ n) (high : n < (Nat.pow 2 63 : Nat)) :
      Tidy (.integer n)
  | float (x : Number.Binary64) : Tidy (.float x)
  | boolean (b : Bool) : Tidy (.boolean b)
  | moment : Tidy .moment
  | array {items : List Value} (items_tidy : ∀ v ∈ items, Tidy v) : Tidy (.array items)
  | table {entries : List (String × Value)} (unique : (entries.map Prod.fst).Nodup)
      (values_tidy : ∀ entry ∈ entries, Tidy entry.2) : Tidy (.table entries)

theorem Value.Tidy.unique {entries : List (String × Value)} (tidy : (Value.table entries).Tidy) :
    (entries.map Prod.fst).Nodup := by
  cases tidy with
  | table unique _ => exact unique

theorem Value.Tidy.values {entries : List (String × Value)} (tidy : (Value.table entries).Tidy) :
    ∀ entry ∈ entries, entry.2.Tidy := by
  cases tidy with
  | table _ values => exact values

/-- The same of a part of an unfinished document. -/
inductive Node.Tidy : Node → Prop
  | value {v : Value} (tidy : v.Tidy) : Tidy (.value v)
  | table {origin : Origin} {entries : Entries} (unique : (entries.map Prod.fst).Nodup)
      (nodes_tidy : ∀ entry ∈ entries, Tidy entry.2) : Tidy (.table origin entries)
  | tables {earlier : List Value} {last : Entries} (earlier_tidy : ∀ v ∈ earlier, v.Tidy)
      (unique : (last.map Prod.fst).Nodup) (nodes_tidy : ∀ entry ∈ last, Tidy entry.2) :
      Tidy (.tables earlier last)

/-- The same of the entries of a table. -/
structure Entries.Tidy (entries : Entries) : Prop where
  unique : (entries.map Prod.fst).Nodup
  nodes_tidy : ∀ entry ∈ entries, entry.2.Tidy

/-! ### Unfinished documents -/

theorem closeEntries_eq_map (entries : Entries) :
    closeEntries entries = entries.map fun entry => (entry.1, entry.2.close) := by
  induction entries with
  | nil => rfl
  | cons entry rest ih => rw [closeEntries, ih, List.map_cons]

theorem keys_closeEntries (entries : Entries) :
    (closeEntries entries).map Prod.fst = entries.map Prod.fst := by
  rw [closeEntries_eq_map, List.map_map]
  rfl

/-- What is tidy while it is put together is tidy in the end. -/
theorem Node.Tidy.close {node : Node} (tidy : node.Tidy) : node.close.Tidy := by
  have values {entries : Entries} (ih : ∀ entry ∈ entries, entry.2.close.Tidy) :
      ∀ entry ∈ closeEntries entries, entry.2.Tidy := by
    intro entry hentry
    rw [closeEntries_eq_map] at hentry
    obtain ⟨before, hbefore, rfl⟩ := List.mem_map.mp hentry
    exact ih before hbefore
  induction tidy with
  | value tidy => rwa [Node.close]
  | table unique _ ih =>
      rw [Node.close]
      exact .table (by rwa [keys_closeEntries]) (values ih)
  | tables earlier unique _ ih =>
      rw [Node.close]
      refine .array fun v hv => ?_
      rcases List.mem_append.mp hv with before | last
      · exact earlier v before
      · obtain rfl := List.mem_singleton.mp last
        exact .table (by rwa [keys_closeEntries]) (values ih)

namespace Entries

variable {entries entries' : Entries} {key name : String} {v : Value}
  {f : Option Node → Option Node}

theorem Tidy.close (tidy : entries.Tidy) : (Value.table (closeEntries entries)).Tidy := by
  have table : (Node.table .header entries).Tidy := .table tidy.unique tidy.nodes_tidy
  simpa only [Node.close] using table.close

theorem Tidy.empty : Tidy [] := ⟨List.nodup_nil, by simp⟩

theorem Tidy.table (tidy : entries.Tidy) (origin : Origin) : (Node.table origin entries).Tidy :=
  .table tidy.unique tidy.nodes_tidy

theorem Tidy.tables (tidy : entries.Tidy) {earlier : List Value}
    (earlier_tidy : ∀ v ∈ earlier, v.Tidy) : (Node.tables earlier entries).Tidy :=
  .tables earlier_tidy tidy.unique tidy.nodes_tidy

theorem Tidy.ofTable {origin : Origin} (tidy : (Node.table origin entries).Tidy) :
    entries.Tidy := by
  cases tidy with
  | table unique nodes => exact ⟨unique, nodes⟩

theorem Tidy.ofTables {earlier : List Value} (tidy : (Node.tables earlier entries).Tidy) :
    (∀ v ∈ earlier, v.Tidy) ∧ entries.Tidy := by
  cases tidy with
  | tables before unique nodes => exact ⟨before, unique, nodes⟩

/-- One more entry at the end, under a key that is new. -/
theorem Tidy.push (tidy : entries.Tidy) (fresh : key ∉ entries.map Prod.fst) {node : Node}
    (node_tidy : node.Tidy) : Tidy (entries ++ [(key, node)]) := by
  refine ⟨?_, fun entry hentry => ?_⟩
  · rw [List.map_append, List.nodup_append]
    refine ⟨tidy.unique, List.nodup_singleton _, fun k hk l hl => ?_⟩
    rintro rfl
    obtain rfl : k = key := by simpa using hl
    exact fresh hk
  · rcases List.mem_append.mp hentry with before | last
    · exact tidy.nodes_tidy entry before
    · obtain rfl := List.mem_singleton.mp last
      exact node_tidy

/-- No key appears that is not the one that is changed. -/
theorem mem_keys_of_put (h : put key f entries = some entries') {k : String}
    (hk : k ∈ entries'.map Prod.fst) : k = key ∨ k ∈ entries.map Prod.fst := by
  induction entries generalizing entries' with
  | nil =>
      obtain ⟨node, -, rfl⟩ := Option.map_eq_some_iff.mp h
      exact .inl (by simpa using hk)
  | cons entry rest ih =>
      obtain ⟨l, node⟩ := entry
      rw [put] at h
      split at h
      · obtain ⟨node', -, rfl⟩ := Option.map_eq_some_iff.mp h
        exact .inr hk
      · obtain ⟨rest', hrest, rfl⟩ := Option.map_eq_some_iff.mp h
        rcases List.mem_cons.mp hk with rfl | hk
        · exact .inr List.mem_cons_self
        · exact (ih hrest hk).imp_right (List.mem_cons_of_mem _)

/-- A change under one key keeps a table tidy if it makes tidy nodes of nothing and of tidy
nodes. -/
theorem Tidy.put (tidy : entries.Tidy) (fresh : ∀ node, f none = some node → node.Tidy)
    (changed : ∀ before after, before.Tidy → f (some before) = some after → after.Tidy)
    (h : put key f entries = some entries') : entries'.Tidy := by
  induction entries generalizing entries' with
  | nil =>
      obtain ⟨node, hnode, rfl⟩ := Option.map_eq_some_iff.mp h
      exact ⟨List.nodup_singleton _, by simpa using fresh node hnode⟩
  | cons entry rest ih =>
      obtain ⟨k, node⟩ := entry
      obtain ⟨alone, unique⟩ := List.nodup_cons.mp tidy.unique
      obtain ⟨first, others⟩ := List.forall_mem_cons.mp tidy.nodes_tidy
      rw [Entries.put] at h
      split at h
      · obtain ⟨node', hnode, rfl⟩ := Option.map_eq_some_iff.mp h
        exact ⟨tidy.unique, List.forall_mem_cons.mpr ⟨changed node node' first hnode, others⟩⟩
      · rename_i other
        obtain ⟨rest', hrest, rfl⟩ := Option.map_eq_some_iff.mp h
        have rest_tidy := ih ⟨unique, others⟩ hrest
        -- The rest can gain no key but the one that is changed, and that is not the first one.
        have new : k ∉ rest'.map Prod.fst := fun hk =>
          (mem_keys_of_put hrest hk).elim other alone
        exact ⟨List.nodup_cons.mpr ⟨new, rest_tidy.unique⟩,
          List.forall_mem_cons.mpr ⟨first, rest_tidy.nodes_tidy⟩⟩

theorem Tidy.assign (v_tidy : v.Tidy) {path : List String} (tidy : entries.Tidy)
    (h : assign v name path entries = some entries') : entries'.Tidy := by
  induction path generalizing entries entries' with
  | nil =>
      refine tidy.put (fun node hnode => ?_) (fun _ _ _ hnode => ?_) h
      · obtain rfl := Option.some.inj hnode
        exact .value v_tidy
      · cases hnode
  | cons key path ih =>
      refine tidy.put (fun node hnode => ?_) (fun before after before_tidy hnode => ?_) h
      · obtain ⟨inner, hinner, rfl⟩ := Option.map_eq_some_iff.mp hnode
        exact (ih .empty hinner).table _
      · cases before with
        | value v => cases hnode
        | table origin inner =>
            have inner_tidy := Tidy.ofTable before_tidy
            cases origin with
            | header => cases hnode
            | implied =>
                dsimp only at hnode
                split at hnode
                · cases hnode
                · obtain ⟨inner', hinner, rfl⟩ := Option.map_eq_some_iff.mp hnode
                  exact (ih inner_tidy hinner).table _
            | dotted =>
                obtain ⟨inner', hinner, rfl⟩ := Option.map_eq_some_iff.mp hnode
                exact (ih inner_tidy hinner).table _
        | tables earlier last =>
            obtain ⟨earlier_tidy, last_tidy⟩ := Tidy.ofTables before_tidy
            dsimp only at hnode
            split at hnode
            · cases hnode
            · obtain ⟨last', hlast, rfl⟩ := Option.map_eq_some_iff.mp hnode
              exact (ih last_tidy hlast).tables earlier_tidy

/-- A change at the end of a header's path. -/
theorem Tidy.within {change : Entries → Option Entries}
    (keeps : ∀ before after : Entries, before.Tidy → change before = some after → after.Tidy)
    {path : List String} (tidy : entries.Tidy) (h : within change path entries = some entries') :
    entries'.Tidy := by
  induction path generalizing entries entries' with
  | nil => exact keeps entries entries' tidy h
  | cons key path ih =>
      refine tidy.put (fun node hnode => ?_) (fun before after before_tidy hnode => ?_) h
      · obtain ⟨inner, hinner, rfl⟩ := Option.map_eq_some_iff.mp hnode
        exact (ih .empty hinner).table _
      · cases before with
        | value v => cases hnode
        | table origin inner =>
            obtain ⟨inner', hinner, rfl⟩ := Option.map_eq_some_iff.mp hnode
            exact (ih (Tidy.ofTable before_tidy) hinner).table _
        | tables earlier last =>
            obtain ⟨earlier_tidy, last_tidy⟩ := Tidy.ofTables before_tidy
            obtain ⟨last', hlast, rfl⟩ := Option.map_eq_some_iff.mp hnode
            exact (ih last_tidy hlast).tables earlier_tidy

theorem Tidy.openTable (tidy : entries.Tidy) (h : openTable name entries = some entries') :
    entries'.Tidy := by
  unfold Entries.openTable at h
  split at h
  · rename_i absent
    obtain rfl := Option.some.inj h
    refine tidy.push ?_ (Tidy.empty.table _)
    rw [List.mem_map]
    rintro ⟨entry, hentry, rfl⟩
    exact absurd (List.lookup_eq_none_iff.mp absent entry hentry) (by simp)
  · rename_i inner found
    obtain rfl := Option.some.inj h
    obtain ⟨front, back, split, -⟩ := List.lookup_eq_some_iff.mp found
    have inner_tidy : Entries.Tidy inner :=
      Tidy.ofTable (tidy.nodes_tidy (name, .table .implied inner) (by rw [split]; simp))
    have others : Tidy (entries.filter (·.1 ≠ name)) :=
      ⟨tidy.unique.sublist (List.filter_sublist.map _),
        fun entry hentry => tidy.nodes_tidy entry (List.mem_filter.mp hentry).1⟩
    refine others.push ?_ (inner_tidy.table _)
    simp
  · cases h

theorem Tidy.openNext (tidy : entries.Tidy) (h : openNext name entries = some entries') :
    entries'.Tidy := by
  refine tidy.put (fun node hnode => ?_) (fun before after before_tidy hnode => ?_) h
  · obtain rfl := Option.some.inj hnode
    exact Tidy.empty.tables (by simp)
  · cases before with
    | value v => cases hnode
    | table origin inner => cases hnode
    | tables earlier last =>
        obtain ⟨earlier_tidy, last_tidy⟩ := Tidy.ofTables before_tidy
        obtain rfl := Option.some.inj hnode
        refine Tidy.empty.tables fun v hv => ?_
        rcases List.mem_append.mp hv with before | last
        · exact earlier_tidy v before
        · obtain rfl := List.mem_singleton.mp last
          exact last_tidy.close

end Entries

/-! ### Reading values -/

/-- Whatever the reader reads has the property. -/
def Reads {α : Type} (P : α → Prop) (read : List Char → Option (α × List Char)) : Prop :=
  ∀ s v rest, read s = some (v, rest) → P v

theorem tidy_of_signed? {negative : Bool} {n : Nat} {m : Int} (h : signed? negative n = some m) :
    (Value.integer m).Tidy := by
  have positive : 0 < Nat.pow 2 63 := by decide
  unfold signed? at h
  split at h <;> split at h <;> cases h
  · exact .integer (by omega) (by omega)
  · exact .integer (by omega) (by omega)

theorem reads_integer? : Reads Value.Tidy integer? := by
  have based {base : Nat} {ok : Char → Bool} : Reads Value.Tidy (based? base ok) := by
    intro s v rest h
    obtain ⟨⟨ds, s'⟩, -, h⟩ := Option.bind_eq_some_iff.mp h
    obtain ⟨m, hm, h⟩ := Option.bind_eq_some_iff.mp h
    obtain ⟨rfl, -⟩ := Prod.mk.inj (Option.some.inj h)
    exact tidy_of_signed? hm
  intro s v rest h
  unfold integer? at h
  split at h
  · exact based _ _ _ h
  · exact based _ _ _ h
  · exact based _ _ _ h
  · obtain ⟨⟨ds, s'⟩, -, h⟩ := Option.bind_eq_some_iff.mp h
    obtain ⟨m, hm, h⟩ := Option.bind_eq_some_iff.mp h
    obtain ⟨rfl, -⟩ := Prod.mk.inj (Option.some.inj h)
    exact tidy_of_signed? hm

theorem reads_float? : Reads Value.Tidy float? := by
  have rounded {negative : Bool} {whole fraction : List Char} {exponent : Int} {v : Value}
      (h : rounded? negative whole fraction exponent = some v) : v.Tidy := by
    simp only [rounded?] at h
    split at h <;> cases h
    exact .float _
  intro s v rest h
  unfold float? at h
  dsimp only at h
  split at h
  · cases h
    exact .float _
  · cases h
    exact .float _
  · obtain ⟨⟨ds, s'⟩, -, h⟩ := Option.bind_eq_some_iff.mp h
    dsimp only at h
    split at h
    · obtain ⟨x, hx, h⟩ := Option.bind_eq_some_iff.mp h
      cases h
      exact rounded hx
    · obtain ⟨⟨exponent, behind⟩, -, h⟩ := Option.bind_eq_some_iff.mp h
      obtain ⟨x, hx, h⟩ := Option.bind_eq_some_iff.mp h
      cases h
      exact rounded hx

theorem reads_scalar? : Reads Value.Tidy scalar? := by
  intro s v rest h
  simp only [scalar?, Option.orElse_eq_orElse, Option.orElse_eq_or, Option.or_eq_some_iff] at h
  rcases h with h | ⟨-, h | ⟨-, h | ⟨-, h | ⟨-, h⟩⟩⟩⟩
  · obtain ⟨⟨text, s'⟩, -, h⟩ := Option.map_eq_some_iff.mp h
    cases h
    exact .string _
  · unfold boolean? at h
    split at h
    · cases h
      exact .boolean _
    · obtain ⟨s', -, h⟩ := Option.map_eq_some_iff.mp h
      cases h
      exact .boolean _
  · obtain ⟨s', -, h⟩ := Option.map_eq_some_iff.mp h
    cases h
    exact .moment
  · exact reads_float? s v rest h
  · exact reads_integer? s v rest h

section Nested

variable {item? : List Char → Option (Value × List Char)} (item_tidy : Reads Value.Tidy item?)

include item_tidy

theorem reads_items? (fuel : Nat) : Reads (∀ v ∈ ·, Value.Tidy v) (items? item? fuel) := by
  induction fuel with
  | zero =>
      intro s vs rest h
      cases h
  | succ fuel ih =>
      intro s vs rest h
      obtain ⟨s', -, h⟩ := Option.bind_eq_some_iff.mp h
      dsimp only at h
      split at h
      · cases h
        simp
      · obtain ⟨⟨v, afterItem⟩, hv, h⟩ := Option.bind_eq_some_iff.mp h
        obtain ⟨behind, -, h⟩ := Option.bind_eq_some_iff.mp h
        have v_tidy := item_tidy _ _ _ hv
        dsimp only at h
        split at h
        · obtain ⟨⟨vs', rest'⟩, hvs, h⟩ := Option.bind_eq_some_iff.mp h
          cases h
          exact List.forall_mem_cons.mpr ⟨v_tidy, ih _ _ _ hvs⟩
        · cases h
          simpa using v_tidy
        · cases h

theorem tidy_of_members? (fuel : Nat) {entries entries' : Entries} {s rest : List Char}
    (tidy : entries.Tidy) (h : members? item? fuel entries s = some (entries', rest)) :
    entries'.Tidy := by
  induction fuel generalizing entries s with
  | zero => cases h
  | succ fuel ih =>
      obtain ⟨⟨middle, s'⟩, hmember, h⟩ := Option.bind_eq_some_iff.mp h
      have middle_tidy : middle.Tidy := by
        obtain ⟨⟨key, s⟩, -, h⟩ := Option.bind_eq_some_iff.mp hmember
        obtain ⟨s, -, h⟩ := Option.bind_eq_some_iff.mp h
        obtain ⟨⟨v, s⟩, hv, h⟩ := Option.bind_eq_some_iff.mp h
        obtain ⟨after, hafter, h⟩ := Option.bind_eq_some_iff.mp h
        cases h
        exact tidy.assign (item_tidy _ _ _ hv) hafter
      dsimp only at h
      split at h
      · exact ih middle_tidy h
      · cases h
        exact middle_tidy
      · cases h

theorem reads_inline? : Reads Value.Tidy (inline? item?) := by
  intro s v rest h
  unfold inline? at h
  split at h
  · cases h
    exact .table List.nodup_nil (by simp)
  · obtain ⟨⟨entries, s'⟩, hentries, h⟩ := Option.map_eq_some_iff.mp h
    cases h
    exact (tidy_of_members? item_tidy _ .empty hentries).close

end Nested

theorem reads_value? (depth : Nat) : Reads Value.Tidy (value? depth) := by
  induction depth with
  | zero =>
      intro s v rest h
      unfold value? at h
      exact reads_scalar? s v rest h
  | succ depth ih =>
      intro s v rest h
      unfold value? at h
      split at h
      · rename_i deeper
        obtain rfl := Nat.succ.inj deeper
        obtain ⟨⟨vs, s'⟩, hvs, h⟩ := Option.map_eq_some_iff.mp h
        cases h
        exact .array (reads_items? ih _ _ _ _ hvs)
      · rename_i deeper
        obtain rfl := Nat.succ.inj deeper
        exact reads_inline? ih _ _ _ h
      · exact reads_scalar? _ _ _ h

/-! ### Reading documents -/

/-- The value in the statement is tidy if there is one. -/
def Statement.Tidy : Statement → Prop
  | .assign _ v => v.Tidy
  | _ => True

theorem reads_statement? : Reads Statement.Tidy statement? := by
  intro s statement rest h
  unfold statement? at h
  split at h
  · obtain ⟨⟨key, s⟩, -, h⟩ := Option.bind_eq_some_iff.mp h
    obtain ⟨s, -, h⟩ := Option.bind_eq_some_iff.mp h
    obtain ⟨s, -, h⟩ := Option.bind_eq_some_iff.mp h
    cases h
    trivial
  · obtain ⟨⟨key, s⟩, -, h⟩ := Option.bind_eq_some_iff.mp h
    obtain ⟨s, -, h⟩ := Option.bind_eq_some_iff.mp h
    obtain ⟨s, -, h⟩ := Option.bind_eq_some_iff.mp h
    cases h
    trivial
  · obtain ⟨⟨key, s⟩, -, h⟩ := Option.bind_eq_some_iff.mp h
    obtain ⟨s, -, h⟩ := Option.bind_eq_some_iff.mp h
    obtain ⟨⟨v, s⟩, hv, h⟩ := Option.bind_eq_some_iff.mp h
    obtain ⟨s, -, h⟩ := Option.bind_eq_some_iff.mp h
    cases h
    exact reads_value? _ _ _ _ hv

theorem tidy_statements? (fuel : Nat) {s : List Char} {statements : List Statement}
    (h : statements? fuel s = some statements) : ∀ statement ∈ statements, statement.Tidy := by
  induction fuel generalizing s statements with
  | zero => cases h
  | succ fuel ih =>
      obtain ⟨s', -, h⟩ := Option.bind_eq_some_iff.mp h
      dsimp only at h
      split at h
      · cases h
        simp
      · obtain ⟨⟨statement, behind⟩, hstatement, h⟩ := Option.bind_eq_some_iff.mp h
        obtain ⟨statements', hstatements, h⟩ := Option.bind_eq_some_iff.mp h
        cases h
        exact List.forall_mem_cons.mpr ⟨reads_statement? _ _ _ hstatement, ih hstatements⟩

theorem Draft.tidy_add {d d' : Draft} {statement : Statement} (tidy : d.entries.Tidy)
    (statement_tidy : statement.Tidy) (h : d.add statement = some d') : d'.entries.Tidy := by
  cases statement with
  | assign key v =>
      obtain ⟨entries, hentries, rfl⟩ := Option.map_eq_some_iff.mp h
      exact tidy.within (fun _ _ tidy h => tidy.assign statement_tidy h) hentries
  | table key =>
      obtain ⟨entries, hentries, rfl⟩ := Option.map_eq_some_iff.mp h
      exact tidy.within (fun _ _ tidy h => tidy.openTable h) hentries
  | tables key =>
      obtain ⟨entries, hentries, rfl⟩ := Option.map_eq_some_iff.mp h
      exact tidy.within (fun _ _ tidy h => tidy.openNext h) hentries

theorem Draft.tidy_addAll {statements : List Statement} {d d' : Draft} (tidy : d.entries.Tidy)
    (statements_tidy : ∀ statement ∈ statements, statement.Tidy)
    (h : statements.foldlM Draft.add d = some d') : d'.entries.Tidy := by
  induction statements generalizing d with
  | nil =>
      cases h
      exact tidy
  | cons statement statements ih =>
      rw [List.foldlM_cons] at h
      obtain ⟨middle, hmiddle, h⟩ := Option.bind_eq_some_iff.mp h
      obtain ⟨first, others⟩ := List.forall_mem_cons.mp statements_tidy
      exact ih (tidy_add tidy first hmiddle) others h

/-- **A document is tidy**: no table in it has a key twice, and no integer in it is outside
64 bits. -/
theorem tidy_document? {text : String} {entries : List (String × Value)}
    (h : document? text = some entries) : (Value.table entries).Tidy := by
  obtain ⟨statements, hstatements, h⟩ := Option.bind_eq_some_iff.mp h
  obtain ⟨d, hd, rfl⟩ := Option.map_eq_some_iff.mp h
  exact (Draft.tidy_addAll .empty (tidy_statements? _ hstatements) hd).close

end Tripwire.Toml
