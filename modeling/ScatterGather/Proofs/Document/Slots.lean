import Mathlib.Data.List.Nodup
import ScatterGather.Proofs.Document.Records

/-!
# Records are read by name

A `Slot` is one of the places that a record being read has for its values, with the name its value
goes by. Slots of different names do not touch each other (`Independent`), so it does not matter in
which order the entries of a table stand: every slot ends up with what the table says under its
name (`get_of_read`), and there is a record exactly when the table says nothing twice and nothing
that cannot be read (`read_eq_ok_iff`).
-/

namespace ScatterGather

variable {σ : Type}

/-- What entries say under a name, if it is there and can be read. -/
def Fields.said {α : Type} (name : String) (read : Document → Except Fault α)
    (entries : List (String × Document)) : Option α :=
  (entries.lookup name).bind fun d => (read d).toOption

/-- One place of a record that is being read, and how the value that stands there is got, put and
read. -/
structure Slot (σ : Type) where
  Value : Type
  name : String
  get : σ → Option Value
  put : σ → Value → σ
  read : Document → Except Fault Value

namespace Slot

/-- The field that fills a slot. -/
def field (p : Slot σ) : Field σ := .of p.name p.get p.put p.read

@[simp] theorem field_name (p : Slot σ) : p.field.name = p.name := rfl

/-- What entries say under the name of a slot. -/
def said (p : Slot σ) (entries : List (String × Document)) : Option p.Value :=
  Fields.said p.name p.read entries

/-- Nothing is said of a slot under no entry. -/
theorem said_eq_none_of_notMem (p : Slot σ) {entries : List (String × Document)}
    (h : p.name ∉ entries.map Prod.fst) : p.said entries = none := by
  have hlookup : entries.lookup p.name = none := by
    rw [List.lookup_eq_none_iff]
    intro e he
    exact bne_iff_ne.mpr fun heq => h (heq ▸ List.mem_map_of_mem he)
  rw [said, Fields.said, hlookup, Option.bind_none]

/-- The names of the slots are distinct, a value that is put into one is got from it, and is not
seen by the others. -/
structure Independent (slots : List (Slot σ)) : Prop where
  names : (slots.map name).Nodup
  got : ∀ p ∈ slots, ∀ s v, p.get (p.put s v) = some v
  apart : ∀ p ∈ slots, ∀ q ∈ slots, p.name ≠ q.name → ∀ s v, q.get (p.put s v) = q.get s

/-- Nothing is said twice about a slot, everything said about one can be read, and the text of the
others goes on behind them. -/
structure Legible (slots : List (Slot σ)) (entries : List (String × Document)) : Prop where
  once : ∀ p ∈ slots, (entries.map Prod.fst).count p.name ≤ 1
  known : ∀ p ∈ slots, ∀ d, (p.name, d) ∈ entries → ∃ v, p.read d = .ok v
  unknown : ∀ e ∈ entries, e.1 ∉ slots.map name → e.2 ≠ .broken

variable {slots : List (Slot σ)} {p q : Slot σ}

/-! ### The slot of a name -/

/-- Slots of one name are one slot. -/
theorem Independent.eq_of_name (hs : Independent slots) (hp : p ∈ slots) (hq : q ∈ slots)
    (h : p.name = q.name) : p = q :=
  List.inj_on_of_nodup_map hs.names hp hq h

/-- A field that is found under a name is that of a slot. -/
theorem exists_of_find? {k : String} {f : Field σ}
    (h : (slots.map field).find? (·.name == k) = some f) :
    ∃ p ∈ slots, f = p.field ∧ p.name = k := by
  obtain ⟨p, hp, rfl⟩ := List.mem_map.mp (List.mem_of_find?_eq_some h)
  exact ⟨p, hp, rfl, by simpa using List.find?_some h⟩

/-- No field is found under a name that no slot has. -/
theorem find?_eq_none_iff {k : String} :
    (slots.map field).find? (·.name == k) = none ↔ k ∉ slots.map name := by
  rw [List.find?_eq_none, List.forall_mem_map, List.mem_map, not_exists]
  exact forall_congr' fun p => by simp

end Slot

/-! ### Reading -/

namespace Fields

open Slot

variable {slots : List (Slot σ)} {p : Slot σ} {s s' : σ} {k : String} {d : Document}
  {entries : List (String × Document)}

theorem skip_eq_ok_iff : skip d = .ok () ↔ d ≠ .broken := by
  cases d <;> simp [skip]

/-- What the first entry comes to: it fills its slot, which must be free, or it is skipped. -/
theorem fromEntries_cons_eq_ok_iff (hs : Independent slots) :
    fromEntries (slots.map field) s (((k, d) :: entries).map fun e => (.text e.1, e.2)) = .ok s' ↔
      (∃ p ∈ slots, p.name = k ∧ p.get s = none ∧ ∃ v, p.read d = .ok v ∧
        fromEntries (slots.map field) (p.put s v) (entries.map fun e => (.text e.1, e.2)) =
          .ok s') ∨
      k ∉ slots.map name ∧ d ≠ .broken ∧
        fromEntries (slots.map field) s (entries.map fun e => (.text e.1, e.2)) = .ok s' := by
  rw [List.map_cons, fromEntries_text]
  cases hfind : (slots.map field).find? (·.name == k) with
  | none =>
      have hk := find?_eq_none_iff.mp hfind
      have hno : ∀ p ∈ slots, p.name ≠ k := by
        intro p hp hpk
        exact hk (hpk ▸ List.mem_map_of_mem hp)
      rw [← skip_eq_ok_iff]
      constructor
      · intro h
        cases hskip : skip d with
        | error e =>
            rw [hskip] at h
            cases h
        | ok _ =>
            rw [hskip] at h
            exact .inr ⟨hk, rfl, h⟩
      · rintro (⟨p, hp, hpk, -⟩ | ⟨-, hskip, h⟩)
        · exact absurd hpk (hno p hp)
        · rw [hskip]
          exact h
  | some f =>
      obtain ⟨p, hp, rfl, rfl⟩ := exists_of_find? hfind
      have hk : p.name ∈ slots.map name := List.mem_map_of_mem hp
      simp only [field, fillOnce_of]
      constructor
      · intro h
        cases hget : p.get s with
        | some v =>
            rw [hget] at h
            cases h
        | none =>
            cases hread : p.read d with
            | error e =>
                rw [hget, hread] at h
                cases h
            | ok v =>
                rw [hget, hread] at h
                exact .inl ⟨p, hp, rfl, hget, v, hread, h⟩
      · rintro (⟨q, hq, hname, hget, v, hread, h⟩ | ⟨hno, -⟩)
        · obtain rfl := hs.eq_of_name hq hp hname
          rw [hget, hread]
          exact h
        · exact absurd hk hno

/-- What reading does to a slot. -/
structure Took (p : Slot σ) (entries : List (String × Document)) (s s' : σ) : Prop where
  once : (entries.map Prod.fst).count p.name ≤ 1
  free : p.name ∈ entries.map Prod.fst → p.get s = none
  known : ∀ d, (p.name, d) ∈ entries → ∃ v, p.read d = .ok v
  get : p.get s' = (p.said entries).or (p.get s)

/-- An entry under another name does nothing to a slot. -/
theorem Took.cons_of_ne {s₁ : σ} (h : Took p entries s₁ s') (hs₁ : p.get s₁ = p.get s)
    (hk : p.name ≠ k) : Took p ((k, d) :: entries) s s' where
  once := by simpa [List.count_cons, hk.symm] using h.once
  free hmem := by
    rw [← hs₁]
    exact h.free (by simpa [hk] using hmem)
  known d' hd' := h.known d' (by simpa [hk] using hd')
  get := by
    rw [h.get, hs₁, Slot.said, Slot.said, said, said, List.lookup_cons, beq_false_of_ne hk]

/-- A slot that an entry has filled is not spoken of again. -/
theorem Took.cons_self {v : p.Value} (h : Took p entries (p.put s v) s')
    (hgot : p.get (p.put s v) = some v) (hfree : p.get s = none) (hread : p.read d = .ok v) :
    Took p ((p.name, d) :: entries) s s' := by
  have hnot : p.name ∉ entries.map Prod.fst := by
    intro hmem
    rw [h.free hmem] at hgot
    cases hgot
  refine ⟨?_, fun _ => hfree, ?_, ?_⟩
  · simp [List.count_eq_zero_of_not_mem hnot]
  · intro d' hd'
    rcases List.mem_cons.mp hd' with heq | hmem
    · cases heq
      exact ⟨v, hread⟩
    · exact absurd (List.mem_map_of_mem hmem) hnot
  · rw [h.get, hgot, p.said_eq_none_of_notMem hnot]
    simp [Slot.said, said, hread, Except.toOption]

/-- Entries that are read through leave in every slot what they say about it. -/
theorem took_of_fromEntries (hs : Independent slots) (hp : p ∈ slots)
    (h : fromEntries (slots.map field) s (entries.map fun e => (.text e.1, e.2)) = .ok s') :
    Took p entries s s' := by
  induction entries generalizing s with
  | nil =>
      cases h
      exact ⟨Nat.zero_le 1, nofun, nofun, rfl⟩
  | cons e entries ih =>
      obtain ⟨k, d⟩ := e
      obtain ⟨q, hq, hk, hfree, v, hread, hrest⟩ | ⟨hk, -, hrest⟩ :=
        (fromEntries_cons_eq_ok_iff hs).mp h
      · by_cases hqp : q = p
        · subst hqp
          subst hk
          exact (ih hrest).cons_self (hs.got q hq s v) hfree hread
        · have hname : q.name ≠ p.name := fun heq => hqp (hs.eq_of_name hq hp heq)
          exact (ih hrest).cons_of_ne (hs.apart q hq p hp hname s v) (hk ▸ hname.symm)
      · exact (ih hrest).cons_of_ne rfl fun heq => hk (heq ▸ List.mem_map_of_mem hp)

/-- Legible entries are read through, when the slots they speak of are free. -/
theorem exists_fromEntries (hs : Independent slots) (hlegible : Legible slots entries)
    (hfree : ∀ p ∈ slots, p.name ∈ entries.map Prod.fst → p.get s = none) :
    ∃ s', fromEntries (slots.map field) s (entries.map fun e => (.text e.1, e.2)) = .ok s' := by
  induction entries generalizing s with
  | nil => exact ⟨s, rfl⟩
  | cons e entries ih =>
      obtain ⟨k, d⟩ := e
      have hrest : Legible slots entries :=
        { once := fun p hp =>
            Nat.le_trans (List.count_le_count_cons) (hlegible.once p hp)
          known := fun p hp d hd => hlegible.known p hp d (List.mem_cons_of_mem _ hd)
          unknown := fun e he => hlegible.unknown e (List.mem_cons_of_mem _ he) }
      by_cases hk : k ∈ slots.map name
      · obtain ⟨p, hp, rfl⟩ := List.mem_map.mp hk
        obtain ⟨v, hread⟩ := hlegible.known p hp d List.mem_cons_self
        have hfree' : ∀ q ∈ slots, q.name ∈ entries.map Prod.fst → q.get (p.put s v) = none := by
          intro q hq hmem
          have hname : p.name ≠ q.name := by
            intro heq
            have hcount := hlegible.once p hp
            rw [List.map_cons, List.count_cons_self] at hcount
            have := List.count_pos_iff.mpr (heq ▸ hmem)
            omega
          rw [hs.apart p hp q hq hname]
          exact hfree q hq (List.mem_cons_of_mem _ hmem)
        obtain ⟨s', h⟩ := ih hrest hfree'
        exact ⟨s', (fromEntries_cons_eq_ok_iff hs).mpr
          (.inl ⟨p, hp, rfl, hfree p hp List.mem_cons_self, v, hread, h⟩)⟩
      · obtain ⟨s', h⟩ := ih hrest fun p hp hmem => hfree p hp (List.mem_cons_of_mem _ hmem)
        exact ⟨s', (fromEntries_cons_eq_ok_iff hs).mpr
          (.inr ⟨hk, hlegible.unknown (k, d) List.mem_cons_self hk, h⟩)⟩

/-- What is skipped goes on behind it. -/
theorem unbroken_of_fromEntries (hs : Independent slots)
    (h : fromEntries (slots.map field) s (entries.map fun e => (.text e.1, e.2)) = .ok s') :
    ∀ e ∈ entries, e.1 ∉ slots.map name → e.2 ≠ .broken := by
  induction entries generalizing s with
  | nil => nofun
  | cons e entries ih =>
      obtain ⟨k, d⟩ := e
      rw [List.forall_mem_cons]
      obtain ⟨p, hp, rfl, -, v, -, h⟩ | ⟨-, hd, h⟩ := (fromEntries_cons_eq_ok_iff hs).mp h
      · exact ⟨fun hk => absurd (List.mem_map_of_mem hp) hk, ih h⟩
      · exact ⟨fun _ => hd, ih h⟩

/-- **A record can be read exactly when the entries are legible**, whatever their order. -/
theorem read_eq_ok_iff (hs : Independent slots) (hempty : ∀ p ∈ slots, p.get s = none) :
    (∃ s', read (slots.map field) s (.record entries) = .ok s') ↔ Legible slots entries := by
  constructor
  · rintro ⟨s', h⟩
    exact ⟨fun p hp => (took_of_fromEntries hs hp h).once,
      fun p hp => (took_of_fromEntries hs hp h).known, unbroken_of_fromEntries hs h⟩
  · intro h
    exact exists_fromEntries hs h fun p hp _ => hempty p hp

/-- A record that has been read holds what the entries say. -/
theorem get_of_read (hs : Independent slots) (hp : p ∈ slots) (hempty : p.get s = none)
    (h : read (slots.map field) s (.record entries) = .ok s') : p.get s' = p.said entries := by
  rw [(took_of_fromEntries hs hp h).get, hempty, Option.or_none]

end Fields

end ScatterGather
