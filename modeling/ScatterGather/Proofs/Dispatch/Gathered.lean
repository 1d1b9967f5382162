import Mathlib.Data.List.Basic
import ScatterGather.Response

/-!
# What the outcomes of units make

The first outcome of a statement decides what its response is of (`Gathered`): of counts, or of
rows under the metadata of the first rows that carry any, and without such rows there is none.
Outcomes of the other shape only leave a warning behind (`IgnoresOthers`), since the response is
that of the outcomes that have the shape of the first one (`Response.ofUnits_filter`). The main
statement, `response_gathered`, says both of every list of outcomes.
-/

namespace ScatterGather

/-! ### Outcomes of one shape -/

namespace Success

/-- An outcome has the shape of another: both are rows, or both are counts. -/
def sameShape (first x : Success) : Bool := x.isQuery == first.isQuery

@[simp] theorem isQuery_query (q : QueryOutcome) : (Success.query q).isQuery = true := rfl

@[simp] theorem isQuery_update (u : UpdateOutcome) : (Success.update u).isQuery = false := rfl

/-- The outcomes that are rows. -/
theorem filter_isQuery (units : List Success) :
    units.filter isQuery = (units.filterMap query?).map .query := by
  induction units with
  | nil => rfl
  | cons x units ih => cases x <;> simp [List.filter_cons, List.filterMap_cons, query?, ih]

/-- The outcomes that are counts. -/
theorem filter_not_isQuery (units : List Success) :
    units.filter (!·.isQuery) = (units.filterMap update?).map .update := by
  induction units with
  | nil => rfl
  | cons x units ih => cases x <;> simp [List.filterMap_cons, update?, ih]

theorem query_injective : Function.Injective Success.query := fun _ _ h => Success.query.inj h

theorem update_injective : Function.Injective Success.update := fun _ _ h => Success.update.inj h

/-- Rows in front, the rows are all among what has their shape. -/
theorem filterMap_query?_sameShape (q : QueryOutcome) (units : List Success) :
    (units.filter (sameShape (.query q))).filterMap query? = units.filterMap query? := by
  rw [List.filterMap_filter]
  congr 1
  funext x
  cases x <;> rfl

/-- Counts in front, the counts are all among what has their shape. -/
theorem filterMap_update?_sameShape (u : UpdateOutcome) (units : List Success) :
    (units.filter (sameShape (.update u))).filterMap update? = units.filterMap update? := by
  rw [List.filterMap_filter]
  congr 1
  funext x
  cases x <;> rfl

end Success

/-! ### The response that the first outcome decides -/

/-- What a list of outcomes makes. -/
inductive Gathered : List Success → Except ExecutionError Response → Prop where
  /-- No outcomes make no counts. -/
  | nothing : Gathered [] (.ok (.update []))
  /-- Counts in front make the counts of all that have any, in order. -/
  | counts {units u} {us : List UpdateOutcome} (hfirst : units.head? = some (.update u))
    (hall : units.filter (!·.isQuery) = us.map .update) : Gathered units (.ok (.update us))
  /-- Rows in front make the cursors of all that have any, in order and as they stand, under the
  first metadata among them. -/
  | rows {units q p metadata} {qs before after : List QueryOutcome}
    (hfirst : units.head? = some (.query q))
    (hall : units.filter Success.isQuery = qs.map .query) (hsplit : qs = before ++ p :: after)
    (hbefore : ∀ p' ∈ before, p'.metadata = none) (hp : p.metadata = some metadata) :
    Gathered units (.ok (.query metadata (qs.map (·.rows))))
  /-- Rows in front make nothing where no rows carry metadata. -/
  | undescribed {units q} {qs : List QueryOutcome} (hfirst : units.head? = some (.query q))
    (hall : units.filter Success.isQuery = qs.map .query) (hnone : ∀ p ∈ qs, p.metadata = none) :
    Gathered units (.error (.invalidState .noMetadata))

namespace Response

variable {units rest rest' : List Success} {first : Success}

theorem ofUnits_of_counts {u : UpdateOutcome} (h : units.head? = some (.update u)) :
    ofUnits units = .ok (.update (units.filterMap Success.update?)) := by
  obtain ⟨rest, rfl⟩ := List.head?_eq_some_iff.mp h
  rfl

theorem ofUnits_of_rows {q : QueryOutcome} (h : units.head? = some (.query q))
    {metadata : QueryMetadata}
    (hm : (units.filterMap Success.query?).findSome? (·.metadata) = some metadata) :
    ofUnits units = .ok (.query metadata ((units.filterMap Success.query?).map (·.rows))) := by
  obtain ⟨rest, rfl⟩ := List.head?_eq_some_iff.mp h
  simp only [ofUnits, hm]

theorem ofUnits_of_undescribed {q : QueryOutcome} (h : units.head? = some (.query q))
    (hm : (units.filterMap Success.query?).findSome? (·.metadata) = none) :
    ofUnits units = .error (.invalidState .noMetadata) := by
  obtain ⟨rest, rfl⟩ := List.head?_eq_some_iff.mp h
  simp only [ofUnits, hm]

/-- What outcomes make is the response that is made of them. -/
theorem gathered_ofUnits (units : List Success) : Gathered units (ofUnits units) := by
  cases hfirst : units.head? with
  | none =>
      obtain rfl := List.head?_eq_none_iff.mp hfirst
      exact .nothing
  | some first =>
      cases first with
      | update u =>
          rw [ofUnits_of_counts hfirst]
          exact .counts hfirst (Success.filter_not_isQuery units)
      | query q =>
          cases hm : (units.filterMap Success.query?).findSome? (·.metadata) with
          | none =>
              rw [ofUnits_of_undescribed hfirst hm]
              exact .undescribed hfirst (Success.filter_isQuery units)
                (List.findSome?_eq_none_iff.mp hm)
          | some metadata =>
              obtain ⟨before, p, after, hsplit, hp, hbefore⟩ := List.findSome?_eq_some_iff.mp hm
              rw [ofUnits_of_rows hfirst hm]
              exact .rows hfirst (Success.filter_isQuery units) hsplit hbefore hp

/-- Outcomes make nothing else. -/
theorem eq_of_gathered {r : Except ExecutionError Response} (h : Gathered units r) :
    ofUnits units = r := by
  have hrows : ∀ {qs : List QueryOutcome}, units.filter Success.isQuery = qs.map .query →
      units.filterMap Success.query? = qs := fun hall =>
    Success.query_injective.list_map ((Success.filter_isQuery units).symm.trans hall)
  cases h with
  | nothing => rfl
  | counts hfirst hall =>
      rw [ofUnits_of_counts hfirst,
        Success.update_injective.list_map ((Success.filter_not_isQuery units).symm.trans hall)]
  | @rows _ q p metadata qs before after hfirst hall hsplit hbefore hp =>
      rw [← hrows hall]
      refine ofUnits_of_rows hfirst (List.findSome?_eq_some_iff.mpr ⟨before, p, after, ?_⟩)
      exact ⟨(hrows hall).trans hsplit, hp, hbefore⟩
  | undescribed hfirst hall hnone =>
      refine ofUnits_of_undescribed hfirst (List.findSome?_eq_none_iff.mpr ?_)
      rwa [hrows hall]

/-- There is no response where rows are in front and no rows carry metadata, and only there. -/
theorem ofUnits_eq_error_iff {e : ExecutionError} :
    ofUnits units = .error e ↔ e = .invalidState .noMetadata ∧
      (∃ q, units.head? = some (.query q)) ∧ ∀ p, .query p ∈ units → p.metadata = none := by
  constructor
  · intro h
    have hg := h ▸ gathered_ofUnits units
    cases hg with
    | undescribed hfirst hall hnone =>
        refine ⟨rfl, ⟨_, hfirst⟩, fun p hp => hnone p ?_⟩
        have hin : Success.query p ∈ units.filter Success.isQuery := List.mem_filter.mpr ⟨hp, rfl⟩
        rw [hall] at hin
        exact (List.mem_map_of_injective Success.query_injective).mp hin
  · rintro ⟨rfl, ⟨q, hfirst⟩, hnone⟩
    refine eq_of_gathered (.undescribed hfirst (Success.filter_isQuery units) fun p hp => ?_)
    obtain ⟨x, hx, hxp⟩ := List.mem_filterMap.mp hp
    cases x with
    | query q => exact hnone p (Option.some.inj hxp ▸ hx)
    | update u => cases hxp

/-! ### Outcomes of the other shape -/

/-- The response is that of the outcomes that have the shape of the first one. -/
theorem ofUnits_filter (first : Success) (rest : List Success) :
    ofUnits (first :: rest.filter first.sameShape) = ofUnits (first :: rest) := by
  cases first with
  | update u =>
      rw [ofUnits_of_counts rfl, ofUnits_of_counts rfl, List.filterMap_cons, List.filterMap_cons,
        Success.filterMap_update?_sameShape]
  | query q =>
      simp only [ofUnits, List.filterMap_cons, Success.filterMap_query?_sameShape]

/-- An outcome leaves a warning behind where it has the other shape, and only there. -/
theorem isSome_warning? (first x : Success) :
    (warning? first.isQuery x).isSome = !first.sameShape x := by
  cases first <;> cases x <;> rfl

theorem warning?_self (first : Success) : warning? first.isQuery first = none := by
  cases first <;> rfl

/-- The first outcome leaves no warning behind. -/
theorem warnings_cons (first : Success) (rest : List Success) :
    warnings (first :: rest) = rest.filterMap (warning? first.isQuery) := by
  rw [warnings, List.filterMap_cons_none (warning?_self first)]

/-- There is one warning for each outcome of the other shape. -/
theorem length_warnings (first : Success) (rest : List Success) :
    (warnings (first :: rest)).length = rest.countP (!first.sameShape ·) := by
  rw [warnings_cons, List.length_filterMap_eq_countP]
  simp only [isSome_warning?]

/-- What outcomes of the other shape change: nothing but the warnings. -/
structure IgnoresOthers (first : Success) (rest : List Success) : Prop where
  /-- Every list with the same outcomes of the first one's shape makes the same response. -/
  same : ∀ rest', rest'.filter first.sameShape = rest.filter first.sameShape →
    ofUnits (first :: rest') = ofUnits (first :: rest)
  /-- There is one warning for each outcome of the other shape. -/
  warned : (warnings (first :: rest)).length = rest.countP (!first.sameShape ·)
  /-- An outcome of the other shape, wherever it stands, is not missed where it is left out, and
  its warning is the only one that goes with it. -/
  inserted : ∀ before x after, rest = before ++ x :: after → first.sameShape x = false →
    ofUnits (first :: (before ++ after)) = ofUnits (first :: rest) ∧
    ∃ line, warning? first.isQuery x = some line ∧
      warnings (first :: rest) =
        warnings (first :: before) ++ line :: warnings (first :: after) ∧
      warnings (first :: (before ++ after)) =
        warnings (first :: before) ++ warnings (first :: after)

theorem ofUnits_eq_of_filter_eq
    (h : rest'.filter first.sameShape = rest.filter first.sameShape) :
    ofUnits (first :: rest') = ofUnits (first :: rest) := by
  rw [← ofUnits_filter first rest', h, ofUnits_filter]

theorem ignoresOthers (first : Success) (rest : List Success) : IgnoresOthers first rest where
  same _ h := ofUnits_eq_of_filter_eq h
  warned := length_warnings first rest
  inserted := by
    rintro before x after rfl hx
    have hsome : (warning? first.isQuery x).isSome := by rw [isSome_warning?, hx]; rfl
    obtain ⟨line, hline⟩ := Option.isSome_iff_exists.mp hsome
    refine ⟨ofUnits_eq_of_filter_eq ?_, line, hline, ?_, ?_⟩
    · simp only [List.filter_append, List.filter_cons_of_neg (by simp [hx] : ¬first.sameShape x)]
    · simp only [warnings_cons, List.filterMap_append, List.filterMap_cons, hline]
    · simp only [warnings_cons, List.filterMap_append]

end Response

/-! ### The whole statement -/

/-- **What outcomes make, they make whatever stands between them.** A list of outcomes makes
exactly what `Gathered` says: no counts of nothing, all the counts in order behind a count, and
behind rows all the cursors in order and as they stand, under the first metadata among the rows.
There is an error exactly where rows are in front and no rows carry metadata. What stands behind
the first outcome and has the other shape changes nothing but the warnings, of which there is one
for each. -/
theorem response_gathered :
    (∀ units r, Response.ofUnits units = r ↔ Gathered units r) ∧
    (∀ units e, Response.ofUnits units = .error e ↔ e = .invalidState .noMetadata ∧
      (∃ q, units.head? = some (.query q)) ∧ ∀ p, .query p ∈ units → p.metadata = none) ∧
    ∀ first rest, Response.IgnoresOthers first rest := by
  refine ⟨fun units r => ⟨?_, Response.eq_of_gathered⟩, fun units e =>
    Response.ofUnits_eq_error_iff, Response.ignoresOthers⟩
  rintro rfl
  exact Response.gathered_ofUnits units

end ScatterGather
