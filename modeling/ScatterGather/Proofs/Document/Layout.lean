import ScatterGather.Proofs.Document.Slots

/-!
# Other forms of a written record

A `Layout` describes what is written of a value: documents that stand as they are, lists, and
records of named fields, each with what becomes of the record when the field is left out. `Form`
relates a layout to the documents that another encoder may write of it: at every level the fields
of a record stand in any order, values under other names stand between them, and fields whose value
is the default are left out. A form is faulty when somewhere a field stands twice, or one is left
out that has no default.

A reader `Reads` a layout when it gives the value back from every form that has no fault, and from
no other. Records are read from their forms when their parts are (`reads_record`), because the
entries of a form tell of every field, wherever it stands (`Form.told`).
-/

namespace ScatterGather

/-- What becomes of a record when a field is left out of it. -/
inductive Leaving where
  /-- It cannot be read: the field has no default. -/
  | breaks
  /-- It stays what it is: the value is the default. -/
  | keeps
  /-- It becomes another one. -/
  | changes
deriving DecidableEq, Repr

/-- Leaving out a field that has a default. -/
def Leaving.ofDefault {α : Type} [DecidableEq α] (default value : α) : Leaving :=
  if value = default then .keeps else .changes

theorem Leaving.eq_keeps {leaving : Leaving} (h : leaving ≠ .changes)
    (h' : (leaving == .breaks) = false) : leaving = .keeps := by
  cases leaving with
  | breaks => cases h'
  | keeps => rfl
  | changes => exact absurd rfl h

/-- What is written of a value. -/
inductive Layout where
  /-- A document that stands as it is. -/
  | leaf (d : Document) (plain : d.Plain)
  | list (items : List Layout)
  | record (fields : List (String × Leaving × Layout))

namespace Layout

/-! ### Forms -/

mutual

/-- The document is one that another encoder may write of the layout, `faulty` when it has a
fault. -/
inductive Form : Bool → Layout → Document → Prop where
  | leaf {d : Document} (plain : d.Plain) : Form false (.leaf d plain) d
  | list {faulty : Bool} {items : List Layout} {ds : List Document} (h : Forms faulty items ds) :
    Form faulty (.list items) (.list ds)
  /-- The fields that are kept, any plain values under unknown names, and any under the names of
  fields that are kept, all of them mixed; a field that is kept again is a fault. -/
  | record {faulty : Bool} {fields : List (String × Leaving × Layout)}
    {kept unknown again entries : List (String × Document)} (h : FieldForms faulty fields kept)
    (hunknown : ∀ e ∈ unknown, e.1 ∉ fields.map Prod.fst)
    (hagain : ∀ e ∈ again, e.1 ∈ kept.map Prod.fst)
    (hplain : ∀ e ∈ unknown ++ again, e.2.Plain)
    (hperm : entries.Perm (kept ++ (unknown ++ again))) :
    Form (faulty || !again.isEmpty) (.record fields) (.record entries)

/-- Forms of the items of a list. -/
inductive Forms : Bool → List Layout → List Document → Prop where
  | nil : Forms false [] []
  | cons {faulty faulty' : Bool} {l : Layout} {ls : List Layout} {d : Document}
    {ds : List Document} (h : Form faulty l d) (hs : Forms faulty' ls ds) :
    Forms (faulty || faulty') (l :: ls) (d :: ds)

/-- Forms of the fields that are kept of a record; the others have a default that is their value,
or have none, which is a fault. -/
inductive FieldForms :
    Bool → List (String × Leaving × Layout) → List (String × Document) → Prop where
  | nil : FieldForms false [] []
  | keep {faulty faulty' : Bool} {name : String} {leaving : Leaving} {l : Layout} {d : Document}
    {fields : List (String × Leaving × Layout)} {kept : List (String × Document)}
    (h : Form faulty l d) (hs : FieldForms faulty' fields kept) :
    FieldForms (faulty || faulty') ((name, leaving, l) :: fields) ((name, d) :: kept)
  | leave {faulty : Bool} {name : String} {leaving : Leaving} {l : Layout}
    {fields : List (String × Leaving × Layout)} {kept : List (String × Document)}
    (hleaving : leaving ≠ .changes) (hs : FieldForms faulty fields kept) :
    FieldForms (leaving == .breaks || faulty) ((name, leaving, l) :: fields) kept

end

variable {faulty : Bool} {l : Layout} {d : Document} {name : String} {leaving : Leaving}
  {fields : List (String × Leaving × Layout)} {kept entries : List (String × Document)}

/-- What stands as it is has one form. -/
theorem Form.eq_of_leaf {d' : Document} {plain : d.Plain} (h : Form faulty (.leaf d plain) d') :
    faulty = false ∧ d' = d := by
  cases h
  exact ⟨rfl, rfl⟩

mutual

/-- Every form is plain. -/
theorem Form.plain : ∀ {faulty : Bool} {l : Layout} {d : Document}, Form faulty l d → d.Plain
  | _, _, _, .leaf plain => plain
  | _, _, _, .list h => .list h.plain
  | _, _, _, .record h _ _ hplain hperm => by
      refine Document.plain_record ?_
      intro e he
      rcases List.mem_append.mp (hperm.mem_iff.mp he) with hkept | hrest
      · exact h.plain e hkept
      · exact hplain e hrest

theorem Forms.plain : ∀ {faulty : Bool} {items : List Layout} {ds : List Document},
    Forms faulty items ds → ∀ d ∈ ds, d.Plain
  | _, _, _, .nil => nofun
  | _, _, _, .cons h hs => List.forall_mem_cons.mpr ⟨h.plain, hs.plain⟩

theorem FieldForms.plain : ∀ {faulty : Bool} {fields : List (String × Leaving × Layout)}
    {kept : List (String × Document)}, FieldForms faulty fields kept → ∀ e ∈ kept, e.2.Plain
  | _, _, _, .nil => nofun
  | _, _, _, .keep h hs => List.forall_mem_cons.mpr ⟨h.plain, hs.plain⟩
  | _, _, _, .leave _ hs => hs.plain

end

/-! ### What is written by default -/

/-- A record with the fields that are kept, in their order, is a form without a fault. -/
theorem form_record (h : FieldForms false fields kept) :
    Form false (.record fields) (.record kept) :=
  @Form.record false fields kept [] [] kept h nofun nofun nofun (by simp)

/-- A field that is kept as it is. -/
theorem fieldForms_keep (h : Form false l d) (hs : FieldForms false fields kept) :
    FieldForms false ((name, leaving, l) :: fields) ((name, d) :: kept) :=
  .keep h hs

/-- A field that is left out because its value is the default. -/
theorem fieldForms_leave (h : leaving = .keeps) (hs : FieldForms false fields kept) :
    FieldForms false ((name, leaving, l) :: fields) kept := by
  have hchanges : Leaving.keeps ≠ .changes := nofun
  rw [h]
  exact .leave hchanges hs

/-- An optional field, which is left out when it has no value. -/
theorem fieldForms_optional {α : Type} [DecidableEq α] {write : α → Document} {o : Option α}
    {plain : (Document.ofOption write o).Plain} (hs : FieldForms false fields kept) :
    FieldForms false ((name, .ofDefault none o, .leaf (.ofOption write o) plain) :: fields)
      (Document.optionalField name write o ++ kept) := by
  cases o with
  | none => exact fieldForms_leave (if_pos rfl) hs
  | some a => exact fieldForms_keep (.leaf plain) hs

/-- Items as they are. -/
theorem forms_map {α : Type} {layout : α → Layout} {write : α → Document} {as : List α}
    (h : ∀ a ∈ as, Form false (layout a) (write a)) :
    Forms false (as.map layout) (as.map write) := by
  induction as with
  | nil => exact .nil
  | cons a as ih =>
      obtain ⟨ha, has⟩ := List.forall_mem_cons.mp h
      exact .cons ha (ih has)

/-! ### What the entries of a form tell of a field -/

/-- What entries tell of a field: its value, or that it is left out, or it stands there twice;
`faulty` when that is a fault. -/
inductive Tells (entries : List (String × Document)) (faulty : Bool)
    (x : String × Leaving × Layout) : Prop where
  | kept {d : Document} (honce : (entries.map Prod.fst).count x.1 = 1) (hd : (x.1, d) ∈ entries)
    (h : Form faulty x.2.2 d)
  | left (h : x.1 ∉ entries.map Prod.fst) (hleaving : x.2.1 ≠ .changes)
    (hfaulty : faulty = (x.2.1 == .breaks))
  | twice (h : 1 < (entries.map Prod.fst).count x.1) (hfaulty : faulty = true)

/-- The fields that are kept stand in their order. -/
theorem FieldForms.sublist (h : FieldForms faulty fields kept) :
    (kept.map Prod.fst).Sublist (fields.map Prod.fst) := by
  induction fields generalizing faulty kept with
  | nil =>
      cases h
      exact List.Sublist.refl _
  | cons x fields ih =>
      cases h with
      | keep _ hs => exact (ih hs).cons_cons _
      | leave _ hs => exact (ih hs).cons _

/-- Entries tell something of every field, and nothing faulty unless there is a fault. -/
structure Told (entries : List (String × Document)) (faulty : Bool)
    (fields : List (String × Leaving × Layout)) : Prop where
  each : ∀ x ∈ fields, ∃ f, Tells entries f x ∧ (f = true → faulty = true)
  fault : faulty = true → ∃ x ∈ fields, Tells entries true x

/-- What is told of one more field. -/
theorem Told.cons {x : String × Leaving × Layout} {faulty' : Bool} (hx : Tells entries faulty x)
    (h : Told entries faulty' fields) : Told entries (faulty || faulty') (x :: fields) where
  each := by
    rw [List.forall_mem_cons]
    refine ⟨⟨faulty, hx, fun hf => by rw [hf, Bool.true_or]⟩, ?_⟩
    intro y hy
    obtain ⟨f, hf, hfaulty⟩ := h.each y hy
    exact ⟨f, hf, fun htrue => by rw [hfaulty htrue, Bool.or_true]⟩
  fault hfaulty := by
    cases faulty with
    | true => exact ⟨x, List.mem_cons_self, hx⟩
    | false =>
        obtain ⟨y, hy, htells⟩ := h.fault hfaulty
        exact ⟨y, List.mem_cons_of_mem x hy, htells⟩

/-- What is told of the fields behind one that has no fault. -/
theorem Told.tail {x : String × Leaving × Layout} (h : Told entries faulty (x :: fields))
    (hx : ¬ Tells entries true x) : Told entries faulty fields where
  each y hy := h.each y (List.mem_cons_of_mem x hy)
  fault hfaulty := by
    obtain ⟨y, hy, htells⟩ := h.fault hfaulty
    rcases List.mem_cons.mp hy with rfl | hy
    · exact absurd htells hx
    · exact ⟨y, hy, htells⟩

/-- Entries under other names change nothing about what is told of a field. -/
theorem Tells.of_count {x : String × Leaving × Layout} {entries' : List (String × Document)}
    (h : Tells entries faulty x) (hsub : ∀ d, (x.1, d) ∈ entries → (x.1, d) ∈ entries')
    (hcount : (entries'.map Prod.fst).count x.1 = (entries.map Prod.fst).count x.1) :
    Tells entries' faulty x := by
  cases h with
  | kept honce hd h => exact .kept (hcount ▸ honce) (hsub _ hd) h
  | left hno hleaving hfaulty =>
      rw [← List.count_eq_zero] at hno
      exact .left (List.count_eq_zero.mp (hcount ▸ hno)) hleaving hfaulty
  | twice h hfaulty => exact .twice (hcount ▸ h) hfaulty

/-- Entries under other names change nothing about what is told of some fields. -/
theorem Told.of_count {entries' : List (String × Document)} (h : Told entries faulty fields)
    (hsub : ∀ x ∈ fields, ∀ d, (x.1, d) ∈ entries → (x.1, d) ∈ entries')
    (hcount : ∀ x ∈ fields,
      (entries'.map Prod.fst).count x.1 = (entries.map Prod.fst).count x.1) :
    Told entries' faulty fields where
  each x hx := by
    obtain ⟨f, hf, hfaulty⟩ := h.each x hx
    exact ⟨f, hf.of_count (hsub x hx) (hcount x hx), hfaulty⟩
  fault hfaulty := by
    obtain ⟨x, hx, htells⟩ := h.fault hfaulty
    exact ⟨x, hx, htells.of_count (hsub x hx) (hcount x hx)⟩

/-- The fields that are kept, by themselves, tell of every field. -/
theorem FieldForms.told (h : FieldForms faulty fields kept)
    (hnodup : (fields.map Prod.fst).Nodup) : Told kept faulty fields := by
  induction fields generalizing faulty kept with
  | nil =>
      cases h
      exact ⟨nofun, nofun⟩
  | cons x fields ih =>
      obtain ⟨hnew, hrest⟩ := List.nodup_cons.mp hnodup
      cases h with
      | @keep _ _ name _ _ d _ kept h hs =>
          have hcount : (kept.map Prod.fst).count name = 0 :=
            List.count_eq_zero.mpr fun hmem => hnew (hs.sublist.subset hmem)
          refine .cons (.kept ?_ List.mem_cons_self h) ((ih hs hrest).of_count ?_ ?_)
          · rw [List.map_cons, List.count_cons_self, hcount]
          · exact fun y _ d hd => List.mem_cons_of_mem _ hd
          · intro y hy
            have hmem : y.1 ∈ fields.map Prod.fst := List.mem_map_of_mem hy
            have hne : name ≠ y.1 := fun heq => hnew (heq ▸ hmem)
            rw [List.map_cons, List.count_cons_of_ne hne]
      | leave hleaving hs =>
          exact .cons (.left (fun hmem => hnew (hs.sublist.subset hmem)) hleaving rfl) (ih hs hrest)

/-- What the fields that are kept tell of one of them, their entries tell that are mixed with
others; that the field is kept again is a fault. -/
theorem Tells.of_perm {x : String × Leaving × Layout} {unknown again : List (String × Document)}
    (h : Tells kept faulty x) (hunknown : x.1 ∉ unknown.map Prod.fst)
    (hagain : ∀ e ∈ again, e.1 ∈ kept.map Prod.fst)
    (hperm : entries.Perm (kept ++ (unknown ++ again))) :
    Tells entries (faulty || (again.map Prod.fst).contains x.1) x := by
  have hcount : (entries.map Prod.fst).count x.1 =
      (kept.map Prod.fst).count x.1 + (again.map Prod.fst).count x.1 := by
    rw [(hperm.map Prod.fst).count_eq, List.map_append, List.map_append, List.count_append,
      List.count_append, List.count_eq_zero_of_not_mem hunknown, Nat.zero_add]
  by_cases hmem : x.1 ∈ again.map Prod.fst
  · obtain ⟨e, he, hname⟩ := List.mem_map.mp hmem
    have hkept := List.count_pos_iff.mpr (hname ▸ hagain e he)
    have hmore := List.count_pos_iff.mpr hmem
    refine .twice (by omega) ?_
    rw [List.contains_iff_mem.mpr hmem, Bool.or_true]
  · rw [List.count_eq_zero_of_not_mem hmem, Nat.add_zero] at hcount
    have hcontains : (again.map Prod.fst).contains x.1 = false := by
      simpa using hmem
    rw [hcontains, Bool.or_false]
    exact h.of_count (fun d hd => hperm.mem_iff.mpr (List.mem_append_left _ hd)) hcount

/-- **Every form of a record tells of its fields**: each stands there once with a form of its value,
or is left out, or stands there twice, and one of them is faulty if the form is. -/
theorem Form.told (h : Form faulty (.record fields) d) (hnodup : (fields.map Prod.fst).Nodup) :
    ∃ entries, d = .record entries ∧ Told entries faulty fields := by
  cases h with
  | @record faulty _ kept unknown again entries h hunknown hagain _ hperm =>
      have htold := h.told hnodup
      have hmixed : ∀ x ∈ fields, ∀ f, Tells kept f x →
          Tells entries (f || (again.map Prod.fst).contains x.1) x := by
        intro x hx f htells
        refine htells.of_perm ?_ hagain hperm
        rintro hmem
        obtain ⟨e, he, hname⟩ := List.mem_map.mp hmem
        exact hunknown e he (hname ▸ List.mem_map_of_mem hx)
      refine ⟨entries, rfl, ?_, ?_⟩
      · intro x hx
        obtain ⟨f, hf, hfaulty⟩ := htold.each x hx
        refine ⟨_, hmixed x hx f hf, ?_⟩
        rw [Bool.or_eq_true, Bool.or_eq_true]
        refine Or.imp hfaulty fun hcontains => ?_
        cases again with
        | nil => cases hcontains
        | cons e again => rfl
      · intro hfaulty
        cases again with
        | nil =>
            obtain ⟨x, hx, htells⟩ := htold.fault (by simpa using hfaulty)
            exact ⟨x, hx, hmixed x hx true htells⟩
        | cons e again =>
            obtain ⟨x, hx, hname⟩ :=
              List.mem_map.mp (h.sublist.subset (hagain e List.mem_cons_self))
            obtain ⟨f, hf, -⟩ := htold.each x hx
            have htells := hmixed x hx f hf
            rw [hname, List.map_cons, List.contains_cons, beq_self_eq_true, Bool.true_or,
              Bool.or_true] at htells
            exact ⟨x, hx, htells⟩

end Layout

/-! ### Readers of layouts -/

open Layout

variable {α β ε σ : Type} {levels : Nat} {l : Layout} {faulty : Bool}

@[simp] theorem toOption_ok (a : α) : (.ok a : Except ε α).toOption = some a := rfl

@[simp] theorem toOption_pure (a : α) : (pure a : Except ε α).toOption = some a := rfl

@[simp] theorem toOption_throw (e : ε) : (throw e : Except ε α).toOption = none := rfl

@[simp] theorem toOption_bind (x : Except ε α) (f : α → Except ε β) :
    (x >>= f).toOption = x.toOption.bind fun a => (f a).toOption := by
  cases x <;> rfl

@[simp] theorem toOption_map (f : α → β) (x : Except ε α) :
    (f <$> x).toOption = x.toOption.map f := by
  cases x <;> rfl

theorem toOption_eq_some_iff {x : Except ε α} {a : α} : x.toOption = some a ↔ x = .ok a := by
  cases x <;> simp [Except.toOption]

/-- A reader gives the value back from every form of a layout that has no fault, and nothing from
the others, as far as they nest no deeper than `levels`. -/
def Reads (levels : Nat) (read : Document → Except Fault α) (l : Layout) (a : α) : Prop :=
  ∀ faulty d, Form faulty l d → d.depth ≤ levels →
    (read d).toOption = if faulty then none else some a

/-- What stands as it is is read as ever. -/
theorem reads_leaf {read : Document → Except Fault α} {d : Document} {a : α} (plain : d.Plain)
    (h : read d = .ok a) : Reads levels read (.leaf d plain) a := by
  rintro _ _ ⟨⟩ -
  rw [h]
  rfl

/-- Items are read one after another, up to the first that has a fault. -/
theorem reads_items {read : Document → Except Fault α} {layout : α → Layout} {as : List α}
    (h : ∀ a ∈ as, Reads levels read (layout a) a) {ds : List Document}
    (hds : Forms faulty (as.map layout) ds) (hdepth : ∀ d ∈ ds, d.depth ≤ levels) :
    (ds.mapM read).toOption = if faulty then none else some as := by
  induction as generalizing faulty ds with
  | nil =>
      cases hds
      rfl
  | cons a as ih =>
      obtain ⟨ha, has⟩ := List.forall_mem_cons.mp h
      cases hds with
      | @cons f g _ _ d ds hform hforms =>
          obtain ⟨hd, hds⟩ := List.forall_mem_cons.mp hdepth
          simp only [List.mapM_cons, toOption_bind, ha f d hform hd, ih has hforms hds]
          cases f <;> cases g <;> rfl

/-- A list is read item by item. -/
theorem reads_list {read : Document → Except Fault α} {layout : α → Layout} {as : List α}
    (h : ∀ a ∈ as, Reads (levels - 1) read (layout a) a) :
    Reads levels (Document.readList read) (.list (as.map layout)) as := by
  intro faulty d hform hdepth
  cases hform with
  | list hds =>
      cases levels with
      | zero => exact absurd hdepth (Nat.not_succ_le_zero _)
      | succ levels => exact reads_items h hds (Document.depth_list_le_iff.mp hdepth)

/-- A value that is there is read as one that is there. -/
theorem reads_option {read : Document → Except Fault α} {a : α} (h : Reads levels read l a)
    (hnil : ∀ faulty, ¬ Form faulty l .nil) :
    Reads levels (Document.readOption read) l (some a) := by
  intro faulty d hform hdepth
  have hread : Document.readOption read d = some <$> read d := by
    cases d with
    | nil => exact absurd hform (hnil faulty)
    | _ => rfl
  rw [hread, toOption_map, h faulty d hform hdepth]
  cases faulty <;> rfl

/-! ### Readers of records -/

/-- A slot of a record with the value that it has in the record that is written. -/
structure Part (σ : Type) extends Slot σ where
  value : Value
  leaving : Leaving
  layout : Layout

namespace Part

/-- The field of a part in the layout of its record. -/
def laid (p : Part σ) : String × Leaving × Layout := (p.name, p.leaving, p.layout)

/-- The field that reads a part. -/
def field (p : Part σ) : Field σ := p.toSlot.field

end Part

/-- What a draft of a record is finished to, by what has been read of the parts: the record that was
written when every part has been read or may be left out, and nothing when one is missing. -/
structure Finishes (parts : List (Part σ)) (finish : σ → Except Fault β) (b : β) : Prop where
  complete : ∀ s, (∀ p ∈ parts, p.get s = some p.value ∨ p.get s = none ∧ p.leaving = .keeps) →
    (finish s).toOption = some b
  missing : ∀ s, ∀ p ∈ parts, p.get s = none → p.leaving = .breaks → (finish s).toOption = none

variable {parts : List (Part σ)} {finish : σ → Except Fault β} {b : β} {s : σ}
  {entries : List (String × Document)}

/-- An entry whose name stands there once is the one that is found under it. -/
theorem lookup_of_count {name : String} {d : Document}
    (honce : (entries.map Prod.fst).count name ≤ 1) (h : (name, d) ∈ entries) :
    entries.lookup name = some d := by
  induction entries with
  | nil => cases h
  | cons e entries ih =>
      obtain ⟨k, d'⟩ := e
      rw [List.lookup_cons]
      by_cases hk : name = k
      · subst hk
        rcases List.mem_cons.mp h with heq | hmem
        · cases heq
          simp
        · have hpos : 0 < (entries.map Prod.fst).count name :=
            List.count_pos_iff.mpr (List.mem_map_of_mem hmem)
          rw [List.map_cons, List.count_cons_self] at honce
          omega
      · rw [beq_false_of_ne hk]
        refine ih ?_ ((List.mem_cons.mp h).resolve_left fun heq => hk (congrArg Prod.fst heq))
        rwa [List.map_cons, List.count_cons_of_ne (Ne.symm hk)] at honce

/-- Entries by which a record has the value of a part. -/
structure Part.Sound (p : Part σ) (entries : List (String × Document)) : Prop where
  once : (entries.map Prod.fst).count p.name ≤ 1
  known : ∀ d, (p.name, d) ∈ entries → ∃ v, p.read d = .ok v
  said : p.said entries = some p.value ∨ p.said entries = none ∧ p.leaving = .keeps

/-- What is read of a part that nothing faulty is told of. -/
theorem Part.sound_of_tells {p : Part σ} (hreads : Reads levels p.read p.layout p.value)
    (hdepth : ∀ e ∈ entries, e.2.depth ≤ levels) (h : Tells entries false p.laid) :
    p.Sound entries := by
  cases h with
  | @kept d honce hd hform =>
      have honce' : (entries.map Prod.fst).count p.name ≤ 1 := Nat.le_of_eq honce
      have hread : (p.read d).toOption = some p.value := hreads false d hform (hdepth _ hd)
      have hlookup : entries.lookup p.name = some d := lookup_of_count honce' hd
      refine ⟨honce', ?_, .inl ?_⟩
      · intro d' hd'
        obtain rfl : d = d' := by simpa [hlookup] using lookup_of_count honce' hd'
        exact toOption_eq_some_iff.mp hread ▸ ⟨_, rfl⟩
      · rw [Slot.said, Fields.said, hlookup, Option.bind_some, hread]
  | left hno hleaving hfaulty =>
      refine ⟨?_, fun d hd => absurd (List.mem_map_of_mem hd) hno, .inr ⟨?_, ?_⟩⟩
      · have hzero : (entries.map Prod.fst).count p.name = 0 := List.count_eq_zero_of_not_mem hno
        omega
      · exact p.said_eq_none_of_notMem hno
      · exact Leaving.eq_keeps hleaving hfaulty.symm
  | twice h hfaulty => cases hfaulty

/-- What is told of a part and faulty keeps it from being read, or leaves it out. -/
theorem Part.faulty_of_tells {p : Part σ} (hreads : Reads levels p.read p.layout p.value)
    (hdepth : ∀ e ∈ entries, e.2.depth ≤ levels) (h : Tells entries true p.laid)
    (honce : (entries.map Prod.fst).count p.name ≤ 1)
    (hknown : ∀ d, (p.name, d) ∈ entries → ∃ v, p.read d = .ok v) :
    p.said entries = none ∧ p.leaving = .breaks := by
  cases h with
  | @kept d _ hd hform =>
      obtain ⟨v, hv⟩ := hknown d hd
      have hread := hreads true d hform (hdepth _ hd)
      rw [hv] at hread
      cases hread
  | left hno hleaving hfaulty =>
      exact ⟨p.said_eq_none_of_notMem hno, beq_iff_eq.mp hfaulty.symm⟩
  | twice h => exact absurd honce (Nat.not_le_of_gt h)

theorem map_field (parts : List (Part σ)) :
    parts.map Part.field = (parts.map Part.toSlot).map Slot.field := by
  rw [List.map_map]
  rfl

section

variable (hs : Slot.Independent (parts.map Part.toSlot)) (hempty : ∀ p ∈ parts, p.get s = none)
  (hreads : ∀ p ∈ parts, Reads levels p.read p.layout p.value)
  (hdepth : ∀ e ∈ entries, e.2.depth ≤ levels) (htold : Told entries faulty (parts.map Part.laid))

include hs hempty hreads hdepth htold

/-- Entries that tell nothing faulty are read through, and every part has been read or is left
out. -/
theorem exists_read_of_told (hplain : ∀ e ∈ entries, e.2.Plain) (hfaulty : faulty = false) :
    ∃ s', Fields.read (parts.map Part.field) s (.record entries) = .ok s' ∧
      ∀ p ∈ parts, p.get s' = some p.value ∨ p.get s' = none ∧ p.leaving = .keeps := by
  have hempty' : ∀ p ∈ parts.map Part.toSlot, p.get s = none := List.forall_mem_map.mpr hempty
  have hsound : ∀ p ∈ parts, p.Sound entries := by
    intro p hp
    obtain ⟨f, htells, hf⟩ := htold.each p.laid (List.mem_map_of_mem hp)
    cases f with
    | true => exact absurd (hfaulty ▸ hf rfl) Bool.false_ne_true
    | false => exact p.sound_of_tells (hreads p hp) hdepth htells
  rw [map_field]
  obtain ⟨s', hread⟩ := (Fields.read_eq_ok_iff hs hempty').mpr
    { once := List.forall_mem_map.mpr fun p hp => (hsound p hp).once
      known := List.forall_mem_map.mpr fun p hp => (hsound p hp).known
      unknown := fun e he _ hbroken => by
        have := hplain e he
        rw [hbroken] at this
        cases this }
  refine ⟨s', hread, fun p hp => ?_⟩
  have hmem : p.toSlot ∈ parts.map Part.toSlot := List.mem_map_of_mem hp
  rw [Fields.get_of_read hs hmem (hempty p hp) hread]
  exact (hsound p hp).said

/-- Entries that tell something faulty leave out a part that has no default, if they are read
through at all. -/
theorem exists_missing_of_told (hfaulty : faulty = true) {s' : σ}
    (hread : Fields.read (parts.map Part.field) s (.record entries) = .ok s') :
    ∃ p ∈ parts, p.get s' = none ∧ p.leaving = .breaks := by
  have hempty' : ∀ p ∈ parts.map Part.toSlot, p.get s = none := List.forall_mem_map.mpr hempty
  obtain ⟨_, hx, htells⟩ := htold.fault hfaulty
  obtain ⟨p, hp, rfl⟩ := List.mem_map.mp hx
  have hmem : p.toSlot ∈ parts.map Part.toSlot := List.mem_map_of_mem hp
  rw [map_field] at hread
  have hlegible := (Fields.read_eq_ok_iff hs hempty').mp ⟨s', hread⟩
  obtain ⟨hsaid, hbreaks⟩ := p.faulty_of_tells (hreads p hp) hdepth htells
    (hlegible.once _ hmem) (hlegible.known _ hmem)
  exact ⟨p, hp, (Fields.get_of_read hs hmem (hempty p hp) hread).trans hsaid, hbreaks⟩

/-- A record is read of entries that tell of its parts. -/
theorem toOption_read_of_told (hfinish : Finishes parts finish b)
    (hplain : ∀ e ∈ entries, e.2.Plain) :
    (Fields.read (parts.map Part.field) s (.record entries) >>= finish).toOption =
      if faulty then none else some b := by
  cases faulty with
  | false =>
      obtain ⟨s', hread, hget⟩ := exists_read_of_told hs hempty hreads hdepth htold hplain rfl
      rw [hread]
      exact hfinish.complete s' hget
  | true =>
      cases hread : Fields.read (parts.map Part.field) s (.record entries) with
      | error e => rfl
      | ok s' =>
          obtain ⟨p, hp, hget, hbreaks⟩ :=
            exists_missing_of_told hs hempty hreads hdepth htold rfl hread
          exact hfinish.missing s' p hp hget hbreaks

end

/-- **A record is read from its forms** when its parts are, and what has been read of them is
finished to it. -/
theorem reads_record (hs : Slot.Independent (parts.map Part.toSlot))
    (hempty : ∀ p ∈ parts, p.get s = none)
    (hreads : ∀ p ∈ parts, Reads (levels - 1) p.read p.layout p.value)
    (hfinish : Finishes parts finish b) :
    Reads levels (fun d => Fields.read (parts.map Part.field) s d >>= finish)
      (.record (parts.map Part.laid)) b := by
  intro faulty d hform hdepth
  have hnames : ((parts.map Part.laid).map Prod.fst).Nodup := by
    have := hs.names
    rwa [List.map_map] at this ⊢
  obtain ⟨entries, rfl, htold⟩ := hform.told hnames
  exact toOption_read_of_told hs hempty hreads (Document.depth_le_of_record hdepth) htold hfinish
    hform.plain.of_record

end ScatterGather
