/-
Where a malformed part ends, and what is read as it was written.

A character in hand ends at the first octet that cannot continue it.  Only the octets from 0x80 to
0xbf ever can, so any other octet is read as if nothing had stood before it, and bytes can be read
in two parts if the second one opens with such an octet, `scan_append`.  An octet below 0x80 and
the first octet of each character do.

The other way round, a character is read only where it was written.  Whatever the reader has in
hand, the octets that end it are those that the character is written in behind the first one,
`encode_of_ends`, so the first character that is read can be taken off the bytes,
`exists_of_scan_cons`.

Both together say that a text without replacement characters occurs in what bytes spell exactly if
its octets occur in the bytes, whatever malformed parts there are around them,
`occursIn_decodeLossy_iff`.
-/
import Tripwire.Proofs.Text.Encoding
import Tripwire.Text.Occurrence

namespace Tripwire.Text.Utf8

/-! ### Bytes in two parts -/

/-- The octet can continue some character. -/
def continues (octet : UInt8) : Bool := 0x80 ≤ octet.toNat && octet.toNat ≤ 0xbf

/-- Only an octet that can continue some character can come next. -/
structure Begun.Sound (p : Begun) : Prop where
  low : 0x80 ≤ p.low
  high : p.high ≤ 0xbf

theorem Begun.Sound.continues {p : Begun} (sound : p.Sound) {octet : UInt8}
    (accepts : p.accepts octet = true) : continues octet = true := by
  obtain ⟨low, high⟩ : p.low ≤ octet.toNat ∧ octet.toNat ≤ p.high := by
    simpa [Begun.accepts] using accepts
  have hlow := sound.low
  have hhigh := sound.high
  simp only [Utf8.continues, Bool.and_eq_true, decide_eq_true_eq]
  omega

/-- What a first octet can begin, written in two, three or four octets. -/
theorem start_cases {octet : UInt8} {p : Begun} (h : start octet = .longer p) :
    (∃ n, 2 ≤ n ∧ n < 32 ∧ octet = .ofNat (n + 192) ∧ p = ⟨n, 0, 0x80, 0xbf⟩) ∨
      (∃ n < 16, octet = .ofNat (n + 224) ∧
        p = ⟨n, 1, if n = 0 then 0xa0 else 0x80, if n = 13 then 0x9f else 0xbf⟩) ∨
      ∃ n < 5, octet = .ofNat (n + 240) ∧
        p = ⟨n, 2, if n = 0 then 0x90 else 0x80, if n = 4 then 0x8f else 0xbf⟩ := by
  have written (base : Nat) (hbase : base ≤ octet.toNat) :
      octet = .ofNat (octet.toNat - base + base) := by
    rw [Nat.sub_add_cancel hbase, UInt8.ofNat_toNat]
  by_cases whole : octet.toNat < 0x80
  · simp [start, whole] at h
  by_cases stray : octet.toNat < 0xc2
  · simp [start, whole, stray] at h
  by_cases two : octet.toNat < 0xe0
  · have hoctet := written 192 (by omega)
    rw [hoctet, start_of_two (by omega) (by omega)] at h
    exact .inl ⟨_, by omega, by omega, hoctet, (Start.longer.inj h).symm⟩
  by_cases three : octet.toNat < 0xf0
  · have hoctet := written 224 (by omega)
    rw [hoctet, start_of_three (by omega)] at h
    exact .inr (.inl ⟨_, by omega, hoctet, (Start.longer.inj h).symm⟩)
  by_cases four : octet.toNat < 0xf5
  · have hoctet := written 240 (by omega)
    rw [hoctet, start_of_four (by omega)] at h
    exact .inr (.inr ⟨_, by omega, hoctet, (Start.longer.inj h).symm⟩)
  · have malformed : start octet = .malformed := by
      rw [start, if_neg whole, if_neg stray, if_neg two, if_neg (by omega), if_neg (by omega),
        if_neg three, if_neg (by omega), if_neg (by omega), if_neg (by omega)]
    rw [malformed] at h
    simp at h

theorem sound_first {octet : UInt8} {p : Begun} (h : (first octet).2 = some p) : p.Sound := by
  cases hstart : start octet with
  | whole c => simp [first, hstart] at h
  | malformed => simp [first, hstart] at h
  | longer q =>
      obtain rfl : q = p := by simpa [first, hstart] using h
      rcases start_cases hstart with ⟨n, -, -, -, rfl⟩ | ⟨n, -, -, rfl⟩ | ⟨n, -, -, rfl⟩
      · exact ⟨Nat.le_refl _, Nat.le_refl _⟩
      · constructor <;> dsimp only <;> split <;> decide
      · constructor <;> dsimp only <;> split <;> decide

theorem sound_next {p q : Begun} {octet : UInt8} (h : (p.next octet).2 = some q) : q.Sound := by
  unfold Begun.next at h
  split at h
  · cases hmore : p.more with
    | zero => simp [hmore] at h
    | succ more =>
        obtain rfl : ⟨p.push octet, more, 0x80, 0xbf⟩ = q := by simpa [hmore] using h
        exact ⟨Nat.le_refl _, Nat.le_refl _⟩
  · exact sound_first h

/-- Bytes can be read in two parts if the second one does not begin with an octet that can continue
a character. -/
theorem scan_append_of_sound {more : List UInt8}
    (opens : ∀ octet ∈ more.head?, continues octet = false) (bytes : List UInt8) :
    ∀ hand : Option Begun, (∀ p, hand = some p → p.Sound) →
      scan hand (bytes ++ more) = scan hand bytes ++ scan none more := by
  induction bytes with
  | nil =>
      intro hand sound
      cases hand with
      | none => rfl
      | some p =>
          cases more with
          | nil => rfl
          | cons octet rest =>
              have refused : p.accepts octet = false := by
                rw [← Bool.not_eq_true]
                intro accepts
                have := (sound p rfl).continues accepts
                rw [opens octet rfl] at this
                simp at this
              have hnext : p.next octet = (none :: (first octet).1, (first octet).2) := by
                simp [Begun.next, refused]
              show (p.next octet).1 ++ scan (p.next octet).2 rest
                = [none] ++ ((first octet).1 ++ scan (first octet).2 rest)
              rw [hnext]
              rfl
  | cons octet bytes ih =>
      intro hand sound
      cases hand with
      | none =>
          rw [List.cons_append, scan, scan, ih _ fun p => sound_first, List.append_assoc]
      | some p =>
          rw [List.cons_append, scan, scan, ih _ fun q => sound_next, List.append_assoc]

theorem scan_append {more : List UInt8} (opens : ∀ octet ∈ more.head?, continues octet = false)
    (bytes : List UInt8) : scan none (bytes ++ more) = scan none bytes ++ scan none more :=
  scan_append_of_sound opens bytes none (by simp)

theorem decodeLossy_append {more : List UInt8}
    (opens : ∀ octet ∈ more.head?, continues octet = false) (bytes : List UInt8) :
    decodeLossy (bytes ++ more) = decodeLossy bytes ++ decodeLossy more := by
  rw [decodeLossy, scan_append opens, List.map_append]
  rfl

/-! ### Characters and what they were written in -/

/-- The octets end the character in hand, and make it this one. -/
inductive Begun.Ends : Begun → List UInt8 → Char → Prop
  | last {p : Begun} {octet : UInt8} (more : p.more = 0) (accepts : p.accepts octet = true) :
      p.Ends [octet] (.ofNat (p.push octet))
  | further {p : Begun} {octet : UInt8} {octets : List UInt8} {c : Char} {more : Nat}
      (hmore : p.more = more + 1) (accepts : p.accepts octet = true)
      (rest : Begun.Ends ⟨p.push octet, more, 0x80, 0xbf⟩ octets c) : p.Ends (octet :: octets) c

/-- Some octets end the character in hand, or else it is a malformed part. -/
theorem scan_some (bytes : List UInt8) : ∀ p : Begun, ∃ front rest, bytes = front ++ rest ∧
    (scan (some p) bytes = none :: scan none rest ∨
      ∃ c, p.Ends front c ∧ scan (some p) bytes = some c :: scan none rest) := by
  induction bytes with
  | nil => intro p; exact ⟨[], [], rfl, .inl rfl⟩
  | cons octet bytes ih =>
      intro p
      rw [scan, Begun.next]
      cases accepts : p.accepts octet with
      | false =>
          refine ⟨[], octet :: bytes, rfl, .inl ?_⟩
          rw [scan]
          rfl
      | true =>
          rw [if_pos rfl]
          cases hmore : p.more with
          | zero => exact ⟨[octet], bytes, rfl, .inr ⟨_, .last hmore accepts, rfl⟩⟩
          | succ more =>
              obtain ⟨front, rest, rfl, hscan⟩ := ih ⟨p.push octet, more, 0x80, 0xbf⟩
              refine ⟨octet :: front, rest, rfl, hscan.imp id ?_⟩
              rintro ⟨c, ends, hscan⟩
              exact ⟨c, .further hmore accepts ends, hscan⟩

/-- An octet that is accepted brings six bits. -/
theorem exists_of_accepts {p : Begun} (sound : p.Sound) {octet : UInt8}
    (accepts : p.accepts octet = true) :
    ∃ n < 64, octet = .ofNat (n + 128) ∧ p.push octet = p.bits * 64 + n ∧
      p.low ≤ n + 128 ∧ n + 128 ≤ p.high := by
  obtain ⟨low, high⟩ : p.low ≤ octet.toNat ∧ octet.toNat ≤ p.high := by
    simpa [Begun.accepts] using accepts
  have hlow := sound.low
  have hhigh := sound.high
  refine ⟨octet.toNat - 128, by omega, ?_, rfl, by omega, by omega⟩
  rw [Nat.sub_add_cancel (by omega), UInt8.ofNat_toNat]

/-- With no octet missing behind the next one, that one ends the character. -/
theorem ends_of_more_zero {p : Begun} {octets : List UInt8} {c : Char} (sound : p.Sound)
    (more : p.more = 0) (ends : p.Ends octets c) :
    ∃ n < 64, octets = [.ofNat (n + 128)] ∧ c = .ofNat (p.bits * 64 + n) ∧
      p.low ≤ n + 128 ∧ n + 128 ≤ p.high := by
  cases ends with
  | last _ accepts =>
      obtain ⟨n, small, rfl, push, range⟩ := exists_of_accepts sound accepts
      exact ⟨n, small, rfl, by rw [push], range⟩
  | further hmore _ _ => simp [more] at hmore

/-- With some missing, the next one brings its bits, and the others end the character. -/
theorem ends_of_more_succ {p : Begun} {octets : List UInt8} {c : Char} {more : Nat}
    (sound : p.Sound) (hmore : p.more = more + 1) (ends : p.Ends octets c) :
    ∃ n < 64, ∃ rest, octets = .ofNat (n + 128) :: rest ∧
      Begun.Ends ⟨p.bits * 64 + n, more, 0x80, 0xbf⟩ rest c ∧
      p.low ≤ n + 128 ∧ n + 128 ≤ p.high := by
  cases ends with
  | last hmore' _ => simp [hmore] at hmore'
  | @further _ octet rest _ more' hmore' accepts ends =>
      obtain ⟨n, small, rfl, push, range⟩ := exists_of_accepts sound accepts
      obtain rfl : more' = more := by omega
      exact ⟨n, small, rest, rfl, push ▸ ends, range⟩

theorem Begun.Sound.ofMore (bits more : Nat) : Begun.Sound ⟨bits, more, 0x80, 0xbf⟩ :=
  ⟨Nat.le_refl _, Nat.le_refl _⟩

/-- The number is the code point of its character. -/
theorem val_ofNat {v : Nat} (valid : v < 0xd800 ∨ 0xdfff < v ∧ v < 0x110000) :
    (Char.ofNat v).val.toNat = v := by
  have hvalid : v.isValidChar := valid
  rw [Char.ofNat, dif_pos hvalid]
  rfl

/-- **A character is read only where it was written.** -/
theorem encode_of_ends {octet : UInt8} {octets : List UInt8} {p : Begun} {c : Char}
    (begins : start octet = .longer p) (ends : p.Ends octets c) :
    String.utf8EncodeChar c = octet :: octets := by
  have inHand : (first octet).2 = some p := by simp [first, begins]
  have sound : p.Sound := sound_first inHand
  rcases start_cases begins with ⟨n, low, high, rfl, rfl⟩ | ⟨n, high, rfl, rfl⟩ | ⟨n, high, rfl, rfl⟩
  · obtain ⟨m, small, rfl, rfl, -⟩ := ends_of_more_zero sound rfl ends
    dsimp only
    rw [String.utf8EncodeChar, val_ofNat (by omega), if_neg (by omega), if_pos (by omega)]
    congr 3 <;> omega
  · obtain ⟨m, small, rest, rfl, ends, hlow, hhigh⟩ := ends_of_more_succ sound rfl ends
    obtain ⟨k, small', rfl, rfl, -⟩ := ends_of_more_zero (.ofMore _ _) rfl ends
    dsimp only at hlow hhigh ⊢
    have least : 32 ≤ n * 64 + m := by split at hlow <;> omega
    have other : n = 13 → m < 32 := by intro h; rw [if_pos h] at hhigh; omega
    rw [String.utf8EncodeChar, val_ofNat (by omega), if_neg (by omega), if_neg (by omega),
      if_pos (by omega)]
    congr 4 <;> omega
  · obtain ⟨m, small, rest, rfl, ends, hlow, hhigh⟩ := ends_of_more_succ sound rfl ends
    obtain ⟨k, small', rest, rfl, ends, -⟩ := ends_of_more_succ (.ofMore _ _) rfl ends
    obtain ⟨l, small'', rfl, rfl, -⟩ := ends_of_more_zero (.ofMore _ _) rfl ends
    dsimp only at hlow hhigh ⊢
    have least : 16 ≤ n * 64 + m := by split at hlow <;> omega
    have most : n = 4 → m < 16 := by intro h; rw [if_pos h] at hhigh; omega
    rw [String.utf8EncodeChar, val_ofNat (by omega), if_neg (by omega), if_neg (by omega),
      if_neg (by omega)]
    congr 5 <;> omega

/-- An octet that is a whole character is what the character is written in. -/
theorem encode_of_whole {octet : UInt8} {c : Char} (h : start octet = .whole c) :
    String.utf8EncodeChar c = [octet] := by
  have small : octet.toNat < 0x80 := by
    by_contra large
    rw [start, if_neg large] at h
    repeat' split at h
    all_goals simp at h
  rw [start, if_pos small] at h
  have code : c.val.toNat = octet.toNat := by
    rw [← Start.whole.inj h]
    exact val_ofNat (by omega)
  rw [String.utf8EncodeChar, code, if_pos (by omega), UInt8.ofNat_toNat]

/-- What is read first can be taken off the bytes, and if it is a character it was written there. -/
theorem exists_of_scan_cons {bytes : List UInt8} {part : Option Char} {parts : List (Option Char)}
    (h : scan none bytes = part :: parts) : ∃ front rest, bytes = front ++ rest ∧
      scan none rest = parts ∧ ∀ c, part = some c → front = String.utf8EncodeChar c := by
  cases bytes with
  | nil => simp [scan] at h
  | cons octet bytes =>
      rw [scan, first] at h
      cases begins : start octet with
      | whole c =>
          rw [begins] at h
          obtain ⟨rfl, hrest⟩ := List.cons.inj h
          refine ⟨[octet], bytes, rfl, hrest, fun c' hc => ?_⟩
          obtain rfl := Option.some.inj hc
          exact (encode_of_whole begins).symm
      | malformed =>
          rw [begins] at h
          obtain ⟨rfl, hrest⟩ := List.cons.inj h
          exact ⟨[octet], bytes, rfl, hrest, fun c hc => by simp at hc⟩
      | longer p =>
          rw [begins] at h
          obtain ⟨front, rest, rfl, hscan⟩ := scan_some bytes p
          have h : scan (some p) (front ++ rest) = part :: parts := h
          refine ⟨octet :: front, rest, rfl, ?_⟩
          rcases hscan with hscan | ⟨c, ends, hscan⟩
          · obtain ⟨rfl, hrest⟩ := List.cons.inj (hscan.symm.trans h)
            exact ⟨hrest, fun c hc => by simp at hc⟩
          · obtain ⟨rfl, hrest⟩ := List.cons.inj (hscan.symm.trans h)
            refine ⟨hrest, fun c' hc => ?_⟩
            obtain rfl := Option.some.inj hc
            exact (encode_of_ends begins ends).symm

/-- Any bytes spell something. -/
theorem scan_ne_nil (octet : UInt8) (bytes : List UInt8) : scan none (octet :: bytes) ≠ [] := by
  rw [scan, first]
  cases start octet with
  | whole c => simp
  | malformed => simp
  | longer p =>
      obtain ⟨front, rest, -, hscan | ⟨c, -, hscan⟩⟩ := scan_some bytes p <;> simp [hscan]

theorem exists_of_scan_append (parts : List (Option Char)) {more : List (Option Char)} :
    ∀ {bytes : List UInt8}, scan none bytes = parts ++ more →
      ∃ front rest, bytes = front ++ rest ∧ scan none rest = more := by
  induction parts with
  | nil => intro bytes h; exact ⟨[], bytes, rfl, h⟩
  | cons part parts ih =>
      intro bytes h
      obtain ⟨front, rest, rfl, hrest, -⟩ := exists_of_scan_cons h
      obtain ⟨front', rest', rfl, hrest'⟩ := ih hrest
      exact ⟨front ++ front', rest', (List.append_assoc _ _ _).symm, hrest'⟩

theorem exists_of_scan_text (s : List Char) {more : List (Option Char)} :
    ∀ {bytes : List UInt8}, scan none bytes = s.map some ++ more →
      ∃ rest, bytes = encode s ++ rest ∧ scan none rest = more := by
  induction s with
  | nil => intro bytes h; exact ⟨bytes, rfl, h⟩
  | cons c s ih =>
      intro bytes h
      obtain ⟨front, rest, rfl, hrest, hfront⟩ := exists_of_scan_cons h
      obtain ⟨rest', rfl, hrest'⟩ := ih hrest
      refine ⟨rest', ?_, hrest'⟩
      rw [hfront c rfl, encode, encode, List.flatMap_cons, List.append_assoc]

/-- What is read as a text to the end is the text as it is written. -/
theorem eq_encode_of_scan {bytes : List UInt8} {s : List Char} (h : scan none bytes = s.map some) :
    bytes = encode s := by
  obtain ⟨rest, rfl, hrest⟩ := exists_of_scan_text s (h.trans (List.append_nil _).symm)
  cases rest with
  | nil => exact List.append_nil _
  | cons octet rest => exact absurd hrest (scan_ne_nil octet rest)

/-! ### Texts that occur in others -/

/-- No character is written with an octet first that continues another. -/
theorem opens_encode (s : List Char) (rest : List UInt8) (h : s ≠ []) :
    ∀ octet ∈ (encode s ++ rest).head?, continues octet = false := by
  obtain ⟨c, s, rfl⟩ := List.exists_cons_of_ne_nil h
  intro octet hoctet
  have valid : c.val.toNat < 0xd800 ∨ 0xdfff < c.val.toNat ∧ c.val.toNat < 0x110000 := c.valid
  rw [encode, List.flatMap_cons, String.utf8EncodeChar] at hoctet
  generalize c.val.toNat = v at valid hoctet
  have opens {n : Nat} (small : n < 256) (other : n < 0x80 ∨ 0xbf < n)
      (hn : octet = .ofNat n) : continues octet = false := by
    rw [hn, continues, toNat_octet small, Bool.and_eq_false_iff, decide_eq_false_iff_not,
      decide_eq_false_iff_not]
    omega
  split at hoctet
  · exact opens (n := v) (by omega) (by omega) (Option.some.inj hoctet).symm
  split at hoctet
  · exact opens (by omega) (by omega) (Option.some.inj hoctet).symm
  split at hoctet
  · exact opens (by omega) (by omega) (Option.some.inj hoctet).symm
  · exact opens (by omega) (by omega) (Option.some.inj hoctet).symm

/-- **A text without replacement characters occurs in what bytes spell exactly if its octets occur
in the bytes.** -/
theorem occursIn_decodeLossy_iff {pattern : List Char} (plain : '\uFFFD' ∉ pattern)
    (bytes : List UInt8) :
    occursIn pattern (decodeLossy bytes) = true ↔ encode pattern <:+: bytes := by
  rw [occursIn_iff]
  constructor
  · rintro ⟨before, after, h⟩
    obtain ⟨parts, after', hscan, hbefore, -⟩ := List.map_eq_append_iff.mp h
    obtain ⟨before', pattern', rfl, -, hpattern⟩ := List.map_eq_append_iff.mp hbefore
    -- A malformed part is shown as a character that the pattern does not have.
    have whole : pattern' = pattern.map some := by
      rw [← hpattern, List.map_map]
      refine (List.map_id _).symm.trans (List.map_congr_left fun part hpart => ?_)
      cases part with
      | some c => rfl
      | none => exact absurd (hpattern ▸ List.mem_map_of_mem hpart) plain
    obtain ⟨front, rest, rfl, hrest⟩ := exists_of_scan_append before' (by
      rw [hscan, List.append_assoc])
    rw [whole] at hrest
    obtain ⟨rest', rfl, -⟩ := exists_of_scan_text pattern hrest
    exact ⟨front, rest', by simp⟩
  · rintro ⟨front, rest, rfl⟩
    by_cases empty : pattern = []
    · exact ⟨[], decodeLossy (front ++ encode pattern ++ rest), by simp [empty]⟩
    · refine ⟨decodeLossy front, decodeLossy rest, ?_⟩
      rw [List.append_assoc, decodeLossy_append (opens_encode pattern rest empty), decodeLossy,
        decodeLossy, scan_encode, List.map_append, List.map_map, List.append_assoc]
      simp [decodeLossy, Function.comp_def]

end Tripwire.Text.Utf8
