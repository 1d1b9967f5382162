import Mathlib.Data.List.Nodup
import Mathlib.Data.List.Perm.Basic
import ScatterGather.Forward.Engine
import ScatterGather.Proofs.FirstError
import ScatterGather.Proofs.Run

/-!
# What replies decide

`Forward.Verdict` says, without sorting anything, which result the replies to a statement call for:
too few of them are a timeout, and otherwise the first `n` alone decide, by their indexes and by the
failure of the lowest index. Main facts:

* `verdict_respond`: the response of a call that got its replies is their verdict;
* `Verdict.unique`: replies call for one result;
* `Verdict.congr`: neither the order of the first `n` replies nor what comes behind them matters.
-/

namespace ScatterGather

/-- The outcome that a success is. -/
def Success.toOutcome : Success → Outcome
  | .query q => .query q
  | .update u => .update u

/-- An outcome is a success or an error. -/
theorem Outcome.success_or_error (o : Outcome) :
    (∃ x : Success, o = x.toOutcome) ∨ ∃ cause, o = .error cause := by
  cases o with
  | query q => exact .inl ⟨.query q, rfl⟩
  | update u => exact .inl ⟨.update u, rfl⟩
  | error cause => exact .inr ⟨cause, rfl⟩

/-- An outcome is a success when it classifies as one, whatever its data source. -/
theorem Outcome.classify_eq_ok {o : Outcome} {source : String} {x : Success} :
    o.classify source = .ok x ↔ o = x.toOutcome := by
  cases o <;> cases x <;> simp [classify, Success.toOutcome]

/-- An outcome fails when it is an error, with the data source it came from. -/
theorem Outcome.classify_eq_error {o : Outcome} {source : String} {e : ExecutionError} :
    o.classify source = .error e ↔ ∃ cause, o = .error cause ∧ e = .driver source cause := by
  cases o <;> simp [classify, eq_comm]

/-- A reply is an error exactly when its outcome is. -/
theorem Reply.toOutcome_eq_error {r : Reply} {cause : DriverCause} :
    r.toOutcome = .error cause ↔ r = .error cause := by
  cases r <;> simp [toOutcome]

/-- Successes are told apart by their outcomes. -/
theorem Success.toOutcome_injective : Function.Injective toOutcome := by
  intro x y h
  cases x <;> cases y <;> cases h <;> rfl

/-- A success is not an error. -/
theorem Success.toOutcome_ne_error (x : Success) (cause : DriverCause) :
    x.toOutcome ≠ .error cause := by
  cases x <;> simp [toOutcome]

namespace Forward

/-- The unit indexes of frames are `0, ..., n - 1`, each once, in whatever order. -/
def Covers (n : Nat) (frames : List ReplyFrame) : Prop :=
  (frames.map (·.unitIndex.toNat)).Perm (List.range n)

/-- What the replies to a statement call for that was sent as `units`. -/
inductive Verdict (id : CorrelationId) (timeout : Duration) (units : List PhysicalUnit)
    (frames : List ReplyFrame) : Except ExecutionError Response → Prop where
  /-- Too few have come. -/
  | late (h : frames.length < units.length) :
    Verdict id timeout units frames (.error (.timeout id timeout frames.length units.length))
  /-- The first `n` are not one for each unit. -/
  | incomplete (h : units.length ≤ frames.length)
    (hc : ¬Covers units.length (frames.take units.length)) :
    Verdict id timeout units frames (.error (.invalidState (.repliesIncomplete id units.length)))
  /-- Some of them are errors: the one of the lowest index decides, and its unit says for which data
  source. -/
  | failed {f u cause} (h : units.length ≤ frames.length)
    (hc : Covers units.length (frames.take units.length)) (hf : f ∈ frames.take units.length)
    (he : f.reply = .error cause)
    (hlow : ∀ g ∈ frames.take units.length, ∀ c, g.reply = .error c → f.unitIndex ≤ g.unitIndex)
    (hu : u ∈ units) (hi : u.index = f.unitIndex.toNat) :
    Verdict id timeout units frames (.error (.driver u.dataSource cause))
  /-- None of them is: the response is that of their outcomes in the order of their indexes. -/
  | answered {inOrder : List ReplyFrame} {outcomes : List Success}
    (h : units.length ≤ frames.length) (hp : inOrder.Perm (frames.take units.length))
    (hi : inOrder.map (·.unitIndex.toNat) = List.range units.length)
    (ho : inOrder.map (·.reply.toOutcome) = outcomes.map Success.toOutcome) :
    Verdict id timeout units frames (Response.ofUnits outcomes)

/-! ### Sorting frames -/

/-- Sorting keeps every frame. -/
theorem perm_sorted (frames : List ReplyFrame) : (sorted frames).Perm frames :=
  List.mergeSort_perm ..

/-- Sorted frames are in the order of their indexes. -/
theorem pairwise_sorted (frames : List ReplyFrame) :
    (sorted frames).Pairwise fun a b => a.unitIndex ≤ b.unitIndex := by
  have htrans : ∀ a b c : ReplyFrame, decide (a.unitIndex ≤ b.unitIndex) = true →
      decide (b.unitIndex ≤ c.unitIndex) = true → decide (a.unitIndex ≤ c.unitIndex) = true :=
    fun a b c hab hbc => by simpa using UInt64.le_trans (by simpa using hab) (by simpa using hbc)
  have h := List.pairwise_mergeSort htrans
    (fun a b => by simpa using UInt64.le_total a.unitIndex b.unitIndex) frames
  simpa [sorted] using h

/-- Indexes that are in order and one for each unit are `0, 1, ...`. -/
theorem index_sorted_eq {n : Nat} {frames : List ReplyFrame} (h : Covers n frames) :
    (sorted frames).map (·.unitIndex.toNat) = List.range n := by
  have hle : ((sorted frames).map (·.unitIndex.toNat)).Pairwise (· ≤ ·) := by
    rw [List.pairwise_map]
    exact (pairwise_sorted frames).imp fun hab => UInt64.le_iff_toNat_le.mp hab
  exact List.Perm.eq_of_pairwise (fun a b _ _ => Nat.le_antisymm) hle List.pairwise_le_range
    (((perm_sorted frames).map _).trans h)

/-- The check of sorted frames finds out whether there is one for each unit. -/
theorem covers_sorted_iff {n : Nat} {frames : List ReplyFrame} (hn : frames.length = n) :
    covers (sorted frames) = true ↔ Covers n frames := by
  rw [covers, beq_iff_eq, (perm_sorted frames).length_eq, hn]
  constructor
  · intro h
    exact ((perm_sorted frames).map _).symm.trans (.of_eq h)
  · exact index_sorted_eq

/-- Frames in the order of their indexes are determined by which they are. -/
theorem eq_of_perm_of_index {n : Nat} {l l' : List ReplyFrame} (hp : l.Perm l')
    (h : l.map (·.unitIndex.toNat) = List.range n)
    (h' : l'.map (·.unitIndex.toNat) = List.range n) : l = l' := by
  have hlt : ∀ {l : List ReplyFrame}, l.map (·.unitIndex.toNat) = List.range n →
      l.Pairwise fun a b => a.unitIndex.toNat < b.unitIndex.toNat := by
    intro l h
    have := List.pairwise_lt_range (n := n)
    rwa [← h, List.pairwise_map] at this
  exact List.Perm.eq_of_pairwise (fun a b _ _ hab hba => absurd hab (Nat.lt_asymm hba)) (hlt h)
    (hlt h') hp

/-! ### Taking outcomes apart -/

/-- Frames whose outcomes are successes give these, in order. -/
theorem classified_eq_ok {sources : List String} {frames : List ReplyFrame}
    (hlen : frames.length = sources.length) {outcomes : List Success} :
    classified sources frames = .ok outcomes ↔
      frames.map (·.reply.toOutcome) = outcomes.map Success.toOutcome := by
  induction frames generalizing sources outcomes with
  | nil =>
      rw [classified, List.zip_nil_left, mapM_eq_ok]
      cases outcomes <;> simp
  | cons f rest ih =>
      cases sources with
      | nil => cases hlen
      | cons source sources =>
          rw [classified, List.zip_cons_cons, mapM_cons_eq_ok]
          constructor
          · rintro ⟨x, xs, hx, hxs, rfl⟩
            rw [List.map_cons, List.map_cons, Outcome.classify_eq_ok.mp hx,
              (ih (Nat.succ.inj hlen)).mp hxs]
          · intro h
            cases outcomes with
            | nil => cases h
            | cons x xs =>
                obtain ⟨hx, hxs⟩ := List.cons.inj h
                exact ⟨x, xs, Outcome.classify_eq_ok.mpr hx, (ih (Nat.succ.inj hlen)).mpr hxs, rfl⟩

/-- Frames fail as the first error among them, of the data source in its place. -/
theorem classified_eq_error {sources : List String} {frames : List ReplyFrame}
    (hlen : frames.length = sources.length) {e : ExecutionError} :
    classified sources frames = .error e ↔
      ∃ (i : Nat) (f : ReplyFrame) (source : String) (cause : DriverCause),
        frames[i]? = some f ∧ sources[i]? = some source ∧ f.reply = .error cause ∧
        e = .driver source cause ∧
        ∀ (j : Nat) (g : ReplyFrame), j < i → frames[j]? = some g → ∀ c, g.reply ≠ .error c := by
  rw [classified, mapM_eq_error]
  constructor
  · rintro ⟨i, ⟨f, source⟩, hi, he, hbefore⟩
    obtain ⟨hf, hs⟩ := List.getElem?_zip_eq_some.mp hi
    obtain ⟨cause, hc, rfl⟩ := Outcome.classify_eq_error.mp he
    refine ⟨i, f, source, cause, hf, hs, Reply.toOutcome_eq_error.mp hc, rfl, ?_⟩
    intro j g hj hg c hgc
    have hlt : j < sources.length := hlen ▸ (List.getElem?_eq_some_iff.mp hg).1
    obtain ⟨x, hx⟩ := hbefore j (g, sources[j]) hj
      (List.getElem?_zip_eq_some.mpr ⟨hg, List.getElem?_eq_getElem hlt⟩)
    rw [Outcome.classify_eq_ok, Reply.toOutcome_eq_error.mpr hgc] at hx
    exact x.toOutcome_ne_error c hx.symm
  · rintro ⟨i, f, source, cause, hf, hs, hc, rfl, hbefore⟩
    refine ⟨i, (f, source), List.getElem?_zip_eq_some.mpr ⟨hf, hs⟩,
      Outcome.classify_eq_error.mpr ⟨cause, Reply.toOutcome_eq_error.mpr hc, rfl⟩, ?_⟩
    rintro j ⟨g, source'⟩ hj hg
    have hne := hbefore j g hj (List.getElem?_zip_eq_some.mp hg).1
    rcases g.reply.toOutcome.success_or_error with ⟨x, hx⟩ | ⟨c, hc⟩
    · exact ⟨x, Outcome.classify_eq_ok.mpr hx⟩
    · exact absurd (Reply.toOutcome_eq_error.mp hc) (hne c)

/-! ### The verdict on replies -/

section

variable {id : CorrelationId} {timeout : Duration} {units : List PhysicalUnit}
  {frames : List ReplyFrame}

/-- The response of a call that got its replies is the verdict on them. -/
theorem verdict_respond (hi : units.map (·.index) = List.range units.length)
    (h : units.length ≤ frames.length) :
    Verdict id timeout units frames
      (ForwardEngine.respond id (units.map (·.dataSource))
        (.ok (frames.take units.length))).1 := by
  have hlen : (frames.take units.length).length = units.length := List.length_take_of_le h
  by_cases hc : Covers units.length (frames.take units.length)
  · have hidx := index_sorted_eq hc
    have hsources : (sorted (frames.take units.length)).length =
        (units.map (·.dataSource)).length := by
      rw [(perm_sorted _).length_eq, hlen, List.length_map]
    have hsettle : settle id (units.map (·.dataSource)) (frames.take units.length) =
        classified (units.map (·.dataSource)) (sorted (frames.take units.length)) :=
      if_pos ((covers_sorted_iff hlen).mpr hc)
    cases hcl : classified (units.map (·.dataSource)) (sorted (frames.take units.length)) with
    | ok outcomes =>
        have hr : (ForwardEngine.respond id (units.map (·.dataSource))
            (.ok (frames.take units.length))).1 = Response.ofUnits outcomes := by
          simp [ForwardEngine.respond, bind, Except.bind, hsettle, hcl]
        rw [hr]
        exact .answered h (perm_sorted _) hidx ((classified_eq_ok hsources).mp hcl)
    | error e =>
        have hr : (ForwardEngine.respond id (units.map (·.dataSource))
            (.ok (frames.take units.length))).1 = .error e := by
          simp [ForwardEngine.respond, bind, Except.bind, hsettle, hcl]
        rw [hr]
        obtain ⟨i, f, source, cause, hf, hs, he, rfl, hbefore⟩ :=
          (classified_eq_error hsources).mp hcl
        have hfi : f.unitIndex.toNat = i := key_eq_of_getElem? (·.unitIndex.toNat) hidx hf
        obtain ⟨u, hu, rfl⟩ : ∃ u, units[i]? = some u ∧ u.dataSource = source := by
          simpa [List.getElem?_map] using hs
        refine .failed h hc ((perm_sorted _).mem_iff.mp (List.mem_of_getElem? hf)) he ?_
          (List.mem_of_getElem? hu) ((key_eq_of_getElem? (·.index) hi hu).trans hfi.symm)
        intro g hg c hgc
        obtain ⟨j, hj⟩ := List.getElem?_of_mem ((perm_sorted _).mem_iff.mpr hg)
        have hij : i ≤ j := Nat.le_of_not_lt fun hlt => hbefore j g hlt hj c hgc
        have hgj : g.unitIndex.toNat = j := key_eq_of_getElem? (·.unitIndex.toNat) hidx hj
        exact UInt64.le_iff_toNat_le.mpr (by rw [hfi, hgj]; exact hij)
  · have hr : (ForwardEngine.respond id (units.map (·.dataSource))
        (.ok (frames.take units.length))).1 =
          .error (.invalidState (.repliesIncomplete id units.length)) := by
      simp [ForwardEngine.respond, bind, Except.bind, settle, covers_sorted_iff hlen, hc]
    rw [hr]
    exact .incomplete h hc

/-- What is in order covers all units. -/
theorem covers_of_perm {inOrder F : List ReplyFrame} {n : Nat} (hp : inOrder.Perm F)
    (hi : inOrder.map (·.unitIndex.toNat) = List.range n) : Covers n F :=
  (hp.map _).symm.trans (.of_eq hi)

/-- Frames that cover all units are told apart by their indexes. -/
theorem Covers.eq_of_index {n : Nat} {F : List ReplyFrame} (hc : Covers n F) {f g : ReplyFrame}
    (hf : f ∈ F) (hg : g ∈ F) (h : f.unitIndex = g.unitIndex) : f = g := by
  have hn : (F.map (·.unitIndex.toNat)).Nodup := hc.nodup_iff.mpr List.nodup_range
  exact List.inj_on_of_nodup_map hn hf hg (congrArg UInt64.toNat h)

/-- An error among replies excludes that they have outcomes. -/
theorem not_outcomes_of_error {inOrder F : List ReplyFrame} {outcomes : List Success}
    {f : ReplyFrame} {cause : DriverCause} (hp : inOrder.Perm F)
    (ho : inOrder.map (·.reply.toOutcome) = outcomes.map Success.toOutcome) (hf : f ∈ F)
    (he : f.reply = .error cause) : False := by
  have hin : f.reply.toOutcome ∈ outcomes.map Success.toOutcome :=
    ho ▸ List.mem_map_of_mem (hp.mem_iff.mpr hf)
  obtain ⟨x, -, hx⟩ := List.mem_map.mp hin
  exact x.toOutcome_ne_error cause (hx.trans (Reply.toOutcome_eq_error.mpr he))

/-- **Replies call for one result.** -/
theorem Verdict.unique (hi : units.map (·.index) = List.range units.length)
    {r r' : Except ExecutionError Response} (h : Verdict id timeout units frames r)
    (h' : Verdict id timeout units frames r') : r = r' := by
  have hunit : ∀ u ∈ units, ∀ u' ∈ units, u.index = u'.index → u = u' := by
    have hn : (units.map (·.index)).Nodup := hi ▸ List.nodup_range
    exact fun u hu u' hu' => List.inj_on_of_nodup_map hn hu hu'
  cases h with
  | late h =>
      cases h' with
      | late _ => rfl
      | incomplete h' _ | failed h' _ _ _ _ _ _ | answered h' _ _ _ =>
          exact absurd h' (Nat.not_le_of_lt h)
  | incomplete h hc =>
      cases h' with
      | late h' => exact absurd h (Nat.not_le_of_lt h')
      | incomplete _ _ => rfl
      | failed _ hc' _ _ _ _ _ => exact absurd hc' hc
      | answered _ hp hi' _ => exact absurd (covers_of_perm hp hi') hc
  | @failed f u cause h hc hf he hlow hu hui =>
      cases h' with
      | late h' => exact absurd h (Nat.not_le_of_lt h')
      | incomplete _ hc' => exact absurd hc hc'
      | @failed f' u' cause' _ _ hf' he' hlow' hu' hui' =>
          obtain rfl : f = f' := hc.eq_of_index hf hf'
            (UInt64.le_antisymm (hlow f' hf' cause' he') (hlow' f hf cause he))
          obtain rfl : u = u' := hunit u hu u' hu' (hui.trans hui'.symm)
          obtain rfl : cause = cause' := Reply.error.inj (he.symm.trans he')
          rfl
      | answered _ hp _ ho => exact (not_outcomes_of_error hp ho hf he).elim
  | @answered inOrder outcomes h hp hi' ho =>
      cases h' with
      | late h' => exact absurd h (Nat.not_le_of_lt h')
      | incomplete _ hc' => exact absurd (covers_of_perm hp hi') hc'
      | failed _ _ hf he _ _ _ => exact (not_outcomes_of_error hp ho hf he).elim
      | @answered inOrder' outcomes' _ hp' hi'' ho' =>
          obtain rfl := eq_of_perm_of_index (hp.trans hp'.symm) hi' hi''
          rw [Success.toOutcome_injective.list_map (ho.symm.trans ho')]

/-- **Neither the order of the first replies nor those behind them matter.** -/
theorem Verdict.congr {frames' : List ReplyFrame} {r : Except ExecutionError Response}
    (h : Verdict id timeout units frames r) (hn : units.length ≤ frames.length)
    (hn' : units.length ≤ frames'.length)
    (hp : (frames.take units.length).Perm (frames'.take units.length)) :
    Verdict id timeout units frames' r := by
  have hcovers : Covers units.length (frames.take units.length) ↔
      Covers units.length (frames'.take units.length) :=
    ⟨(hp.map _).symm.trans, (hp.map _).trans⟩
  cases h with
  | late h => exact absurd hn (Nat.not_le_of_lt h)
  | incomplete _ hc => exact .incomplete hn' fun hc' => hc (hcovers.mpr hc')
  | failed _ hc hf he hlow hu hui =>
      exact .failed hn' (hcovers.mp hc) (hp.mem_iff.mp hf) he
        (fun g hg => hlow g (hp.mem_iff.mpr hg)) hu hui
  | answered _ hp' hi ho => exact .answered hn' (hp'.trans hp) hi ho

end

end Forward

end ScatterGather
