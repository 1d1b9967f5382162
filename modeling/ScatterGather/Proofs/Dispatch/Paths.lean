import ScatterGather.Proofs.Connection.AnySchedule
import ScatterGather.Proofs.Dispatch.Replies
import ScatterGather.Proofs.Forward.Answered

/-!
# The paths of a statement agree

A statement is dispatched over connections that buffer its rows, over connections that hand them on,
or by forwarding. The main result, `paths_agree`: when its units get the same replies on each path,
and their rows fit their metadata (`Regular`), a client sees the same of all of them. The first unit
has to come with metadata if it comes with rows: connections keep the metadata of no other unit,
while forwarding would take that of a later one.
-/

namespace ScatterGather

/-! ### Over connections -/

/-- Two successes that differ at most in the metadata of their rows. -/
inductive Success.Alike : Success → Success → Prop where
  | rows {metadata metadata' rows} : Alike (.query ⟨metadata, rows⟩) (.query ⟨metadata', rows⟩)
  | counts {counts} : Alike (.update counts) (.update counts)

section

variable {xs ys : List Success}

/-- Outcomes that are alike have the same cursors. -/
theorem rows_of_alike (h : List.Forall₂ Success.Alike xs ys) :
    (xs.filterMap Success.query?).map (·.rows) = (ys.filterMap Success.query?).map (·.rows) := by
  induction h with
  | nil => rfl
  | cons hx _ ih => cases hx <;> simpa [List.filterMap_cons, Success.query?] using ih

/-- Outcomes that are alike have the same counts. -/
theorem counts_of_alike (h : List.Forall₂ Success.Alike xs ys) :
    xs.filterMap Success.update? = ys.filterMap Success.update? := by
  induction h with
  | nil => rfl
  | cons hx _ ih => cases hx <;> simpa [List.filterMap_cons, Success.update?] using ih

/-- The metadata of the units behind the first one does not matter, when the first one comes with
metadata if it comes with rows. -/
theorem Response.ofUnits_congr {x : Success} (hx : ∀ q, x = .query q → q.metadata ≠ none)
    (h : List.Forall₂ Success.Alike xs ys) :
    Response.ofUnits (x :: xs) = Response.ofUnits (x :: ys) := by
  cases x with
  | update counts => simp [Response.ofUnits, List.filterMap_cons, counts_of_alike h]
  | query q =>
      obtain ⟨m, hm⟩ := Option.ne_none_iff_exists'.mp (hx q rfl)
      simp [Response.ofUnits, Success.query?, hm, rows_of_alike h]

end

/-- Connections that answer every unit with the reply to it. -/
def answersOf (reply : PhysicalUnit → Reply) : ConnectionAnswers := fun _ _ u =>
  .ok (reply u).toOutcome

/-- Rows as wide as their cursor says are kept as they are, by either strategy. -/
theorem ConnectionStrategy.wrap_eq (σ : ConnectionStrategy) {width : Nat} {body : List Row}
    (h : ∀ row ∈ body, row.length = width) :
    σ.wrap (.ofMemory (.ofRows width body)) = .ok (.ofMemory (.ofRows width body)) := by
  cases σ with
  | memoryStrictly _ => rfl
  | connectionStrictly =>
      have hread : MemoryCursor.read (UnitCursor.ofMemory (.ofRows width body)) =
          .ok (.ofRows width body) := (UnitCursor.delivers h).read_eq
      rw [wrap, hread]
      rfl

/-- A rectangular reply of rows is a cursor over them that is as wide as they are. -/
theorem Reply.Rectangular.toOutcome_eq {metadata : Option QueryMetadata} {body : List Row}
    (h : (Reply.rows metadata body).Rectangular) :
    ∃ width, (Reply.rows metadata body).toOutcome =
        .query ⟨metadata, .ofMemory (.ofRows width body)⟩ ∧ ∀ row ∈ body, row.length = width := by
  obtain ⟨width, hbody, hmeta⟩ := h
  cases metadata with
  | some m => exact ⟨m.columnCount, rfl, by rwa [hmeta m rfl]⟩
  | none =>
      refine ⟨_, rfl, ?_⟩
      intro row hrow
      cases body with
      | nil => cases hrow
      | cons first rest =>
          rw [hbody row hrow]
          exact (hbody first (List.mem_cons_self ..)).symm

section

variable {reply : PhysicalUnit → Reply} {u : PhysicalUnit}

/-- Of a rectangular reply of rows connections keep its rows, and its metadata for the first
unit. -/
theorem keepAnswer_rows (σ : ConnectionStrategy) {metadata : Option QueryMetadata} {body : List Row}
    (h : (reply u).Rectangular) (hr : reply u = .rows metadata body) :
    ∃ rows, settleUnit reply u = .ok (.query ⟨metadata, rows⟩) ∧
      σ.keepAnswer u (.ok (reply u).toOutcome) =
        .ok (.query ⟨if u.captures then metadata else none, rows⟩) := by
  rw [hr] at h
  obtain ⟨width, heq, hbody⟩ := h.toOutcome_eq
  refine ⟨.ofMemory (.ofRows width body), ?_, ?_⟩
  · rw [settleUnit, hr, heq]
    rfl
  · rw [hr, heq, keepAnswer_query, σ.wrap_eq hbody]
    rfl

/-- What connections keep of a rectangular reply is what it means, but for its metadata. -/
theorem keepAnswer_alike (σ : ConnectionStrategy) (h : (reply u).Rectangular) :
    ComeOutAlike Success.Alike (settleUnit reply u)
      (σ.keepAnswer u (.ok (reply u).toOutcome)) := by
  cases hr : reply u with
  | error cause =>
      rw [settleUnit, hr]
      exact .failed
  | ok affectedRows lastInsertId =>
      rw [settleUnit, hr]
      exact .given .counts
  | rows metadata body =>
      obtain ⟨rows, hsettle, hkeep⟩ := keepAnswer_rows σ h hr
      rw [← hr, hsettle, hkeep]
      exact .given .rows

/-- What connections keep of a rectangular reply to the first unit is what it means. -/
theorem keepAnswer_first (σ : ConnectionStrategy) (h : (reply u).Rectangular) (h0 : u.index = 0) :
    σ.keepAnswer u (.ok (reply u).toOutcome) = settleUnit reply u := by
  cases hr : reply u with
  | error cause | ok affectedRows lastInsertId =>
      rw [settleUnit, hr]
      rfl
  | rows metadata body =>
      obtain ⟨rows, hsettle, hkeep⟩ := keepAnswer_rows σ h hr
      rw [← hr, hsettle, hkeep, PhysicalUnit.captures, h0]
      rfl

end

/-- **Over connections a statement gives the response that the replies make**, by either
strategy. -/
theorem executeInTurn_eq_settled {route : Route} {keys : Bool} {reply : PhysicalUnit → Reply}
    (σ : ConnectionStrategy) (hne : route.units ≠ [])
    (h : Regular (route.dispatchUnits keys) reply) :
    route.executeInTurn σ (answersOf reply) keys = settled (route.dispatchUnits keys) reply := by
  have hsize : 0 < (route.dispatchUnits keys).length := by
    rw [Route.length_dispatchUnits]
    exact List.length_pos_iff.mpr hne
  obtain ⟨u, rest, hunits⟩ := List.exists_cons_of_length_pos hsize
  have h0 : u.index = 0 := route.index_eq_of_getElem? keys (i := 0) (by rw [hunits]; rfl)
  rw [Route.executeInTurn_eq, settled]
  rw [hunits] at h ⊢
  obtain ⟨hu, hrest⟩ := List.forall_mem_cons.mp h.rectangular
  have hhead : route.keptOf keys σ (answersOf reply) u = settleUnit reply u :=
    keepAnswer_first σ hu h0
  have htail : ComeOutAlike (List.Forall₂ Success.Alike) (rest.mapM (settleUnit reply))
      (rest.mapM (route.keptOf keys σ (answersOf reply))) :=
    mapM_alike fun v hv => keepAnswer_alike σ (hrest v hv)
  rw [List.mapM_cons, List.mapM_cons, hhead]
  cases hx : settleUnit reply u with
  | error e => rfl
  | ok x =>
      generalize rest.mapM (settleUnit reply) = r,
        rest.mapM (route.keptOf keys σ (answersOf reply)) = r' at htail
      cases htail with
      | failed => rfl
      | given hxs =>
          refine (Response.ofUnits_congr ?_ hxs).symm
          intro q hq
          rw [hq, settleUnit_eq_ok] at hx
          cases hr : reply u with
          | error cause | ok affectedRows lastInsertId => rw [hr] at hx; cases hx
          | rows metadata body =>
              obtain ⟨m, rfl, -⟩ := h.described u (List.mem_cons_self ..) h0 metadata body hr
              rw [hr] at hx
              cases hx
              nofun

/-! ### By forwarding -/

/-- All replies have arrived: the first frames are one for each unit, in whatever order. -/
def AllReplied (units : List PhysicalUnit) (reply : PhysicalUnit → Reply)
    (frames : List ReplyFrame) : Prop :=
  ∃ inOrder : List ReplyFrame, inOrder.Perm (frames.take units.length) ∧
    List.Forall₂ (fun f u => f.unitIndex.toNat = u.index ∧ f.reply = reply u) inOrder units

section

variable {units : List PhysicalUnit} {reply : PhysicalUnit → Reply} {frames : List ReplyFrame}

/-- Frames that are sorted already stay as they are. -/
theorem sorted_eq_self {n : Nat} (h : frames.map (·.unitIndex.toNat) = List.range n) :
    Forward.sorted frames = frames := by
  refine List.mergeSort_of_pairwise ?_
  have hlt := List.pairwise_lt_range (n := n)
  rw [← h, List.pairwise_map] at hlt
  refine hlt.imp ?_
  intro a b hab
  simpa using UInt64.le_iff_toNat_le.mpr (Nat.le_of_lt hab)

/-- Frames in dispatch order are classified as the replies that they carry. -/
theorem classified_eq_mapM
    (h : List.Forall₂ (fun f u => f.unitIndex.toNat = u.index ∧ f.reply = reply u) frames units) :
    Forward.classified (units.map (·.dataSource)) frames = units.mapM (settleUnit reply) := by
  induction h with
  | nil => rfl
  | @cons f u frames units hf _ ih =>
      have hhead : f.reply.toOutcome.classify u.dataSource = settleUnit reply u := by
        rw [settleUnit, hf.2]
      rw [Forward.classified] at ih
      rw [Forward.classified, List.map_cons, List.zip_cons_cons, List.mapM_cons, List.mapM_cons, ih]
      change (f.reply.toOutcome.classify u.dataSource >>= _) = _
      rw [hhead]

/-- **By forwarding a statement gives the response that the replies make.** -/
theorem AllReplied.eq_settled {id : CorrelationId} {timeout : Duration}
    (h : AllReplied units reply frames) (hidx : units.map (·.index) = List.range units.length)
    {r : Except ExecutionError Response} (hv : Forward.Verdict id timeout units frames r) :
    r = settled units reply := by
  obtain ⟨inOrder, hp, hf⟩ := h
  have hlen : inOrder.length = units.length := hf.length_eq
  have hle : units.length ≤ frames.length := by
    have := hp.length_eq
    rw [List.length_take] at this
    omega
  have hindex : inOrder.map (·.unitIndex.toNat) = List.range units.length := by
    rw [← hidx, ← List.forall₂_eq_eq_eq, List.forall₂_map_left_iff, List.forall₂_map_right_iff]
    exact hf.imp fun _ _ h => h.1
  have hsettle : Forward.settle id (units.map (·.dataSource)) inOrder =
      units.mapM (settleUnit reply) := by
    have hcovers : Forward.covers inOrder = true := by
      rw [Forward.covers, beq_iff_eq, hindex, hlen]
    rw [Forward.settle, sorted_eq_self hindex, if_pos hcovers, classified_eq_mapM hf]
  have hrespond : (ForwardEngine.respond id (units.map (·.dataSource)) (.ok inOrder)).1 =
      settled units reply := by
    have hbind : (Except.ok inOrder >>= Forward.settle id (units.map (·.dataSource))) =
        units.mapM (settleUnit reply) := hsettle
    rw [ForwardEngine.respond, hbind, settled]
    cases units.mapM (settleUnit reply) <;> rfl
  have htake : inOrder.take units.length = inOrder := List.take_of_length_le (Nat.le_of_eq hlen)
  have hv' : Forward.Verdict id timeout units inOrder (settled units reply) := by
    have hr : Forward.Verdict id timeout units inOrder (ForwardEngine.respond id
        (units.map (·.dataSource)) (.ok (inOrder.take units.length))).1 :=
      Forward.verdict_respond hidx (Nat.le_of_eq hlen.symm)
    rwa [htake, hrespond] at hr
  exact hv.unique hidx (hv'.congr (Nat.le_of_eq hlen.symm) hle (htake.symm ▸ hp))

end

/-! ### The main result -/

/-- A path on which a statement can be dispatched. -/
inductive DispatchPath where
  | connections (strategy : ConnectionStrategy)
  | forwarded

/-- A response that a path gives to a statement whose units get these replies, however it is
scheduled, whatever else the engine does, and in whatever order the replies come. -/
inductive Dispatched (route : Route) (keys : Bool) (reply : PhysicalUnit → Reply) :
    DispatchPath → Except ExecutionError Response → Prop where
  /-- A call over connections has ended. -/
  | connections {settings size call before after s₀ s r}
    (h : Connection.ConnectionRun settings size route keys (answersOf reply) call before after s₀ s)
    (hend : s.calls[call]? = some (.ended r)) :
    Dispatched route keys reply (.connections settings.strategy) r
  /-- A forwarded call has ended, and all its replies arrived before its deadline. -/
  | forwarded {settings call id before after s₀ s₁ s r}
    (h : ForwardRun settings route keys call id before after s₀ s₁ s)
    (harr : AllReplied (route.dispatchUnits keys) reply
      (s₁.arrivals id (ForwardRun.number s₀) after))
    (hend : s.stage? call = some (.ended (.result r))) :
    Dispatched route keys reply .forwarded r

section

variable {route : Route} {keys : Bool} {reply : PhysicalUnit → Reply}

/-- Every path gives the response that the replies make. -/
theorem Dispatched.eq_settled {path : DispatchPath} {r : Except ExecutionError Response}
    (hd : Dispatched route keys reply path r) (hne : route.units ≠ [])
    (h : Regular (route.dispatchUnits keys) reply) :
    r = settled (route.dispatchUnits keys) reply := by
  cases hd with
  | connections hrun hend =>
      rw [hrun.result hend]
      exact executeInTurn_eq_settled _ hne h
  | forwarded hrun harr hend =>
      refine harr.eq_settled ?_ (hrun.verdict hend)
      rw [Route.length_dispatchUnits]
      exact route.index_dispatchUnits keys

/-- The frame in which the reply to a unit arrives. -/
def frameOf (id : CorrelationId) (reply : PhysicalUnit → Reply) (u : PhysicalUnit) : ReplyFrame :=
  ⟨id, UInt64.ofNat u.index, reply u⟩

/-- The frames of all units are all replies, when there are enough indexes for them. -/
theorem allReplied_map_frameOf (id : CorrelationId) (hsize : route.size ≤ UInt64.size) :
    AllReplied (route.dispatchUnits keys) reply
      ((route.dispatchUnits keys).map (frameOf id reply)) := by
  refine ⟨(route.dispatchUnits keys).map (frameOf id reply), ?_, ?_⟩
  · rw [List.take_of_length_le (by simp)]
  · rw [List.forall₂_map_left_iff, List.forall₂_same]
    intro u hu
    obtain ⟨i, hi⟩ := List.getElem?_of_mem hu
    have hlt : u.index < UInt64.size := by
      have := (List.getElem?_eq_some_iff.mp hi).1
      rw [Route.length_dispatchUnits] at this
      rw [route.index_eq_of_getElem? keys hi]
      omega
    exact ⟨UInt64.toNat_ofNat_of_lt hlt, rfl⟩

/-- **The paths of a statement agree.** When the rows of all replies fit their metadata, a client
sees the same of every response to a statement with units, on whichever path it was dispatched: what
the replies call for. And every path can give a response, as long as 64 bits number the units. -/
theorem paths_agree (hne : route.units ≠ []) (h : Regular (route.dispatchUnits keys) reply) :
    (∃ o, Agreed route.statement (route.dispatchUnits keys) reply o ∧
      ∀ path r, Dispatched route keys reply path r →
        observe .concatenate route.statement r = o) ∧
    (∀ strategy, ∃ r, Dispatched route keys reply (.connections strategy) r) ∧
    (route.size ≤ UInt64.size → ∃ r, Dispatched route keys reply .forwarded r) := by
  have hidx : (route.dispatchUnits keys).map (·.index) =
      List.range (route.dispatchUnits keys).length := by
    rw [Route.length_dispatchUnits]
    exact route.index_dispatchUnits keys
  have hunits : route.dispatchUnits keys ≠ [] := by
    rw [← List.length_pos_iff, Route.length_dispatchUnits]
    exact List.length_pos_iff.mpr hne
  refine ⟨⟨_, agreed_observe hunits hidx h, ?_⟩, ?_, ?_⟩
  · intro path r hd
    rw [hd.eq_settled hne h]
  · intro strategy
    obtain ⟨after, s₀, s, hrun, hend⟩ :=
      Connection.exists_connectionRun ⟨strategy, false⟩ 1 route keys (answersOf reply)
    exact ⟨_, .connections hrun hend⟩
  · intro hsize
    have hlen : ((route.dispatchUnits keys).map (frameOf 1 reply)).length = route.size := by simp
    obtain ⟨before, after, s₀, s₁, s, r, hrun, heq, hend⟩ :=
      exists_forwardRun ⟨.ofSeconds 1, none, false⟩ keys hne hlen
    exact ⟨r, .forwarded hrun (heq ▸ allReplied_map_frameOf 1 hsize) hend⟩

end

/-- A statement of which one data source gets two units. -/
def threeUnits : Route :=
  (((Route.ofStatement (.ofKind .dql)).withUnit "ds_0" "a").withUnit "ds_1" "b").withUnit "ds_0" "c"

/-- The metadata of one column. -/
def oneColumn : QueryMetadata := ⟨[⟨"id", none, .integer⟩]⟩

/-- Rows with metadata, counts, and rows without metadata. -/
def mixedReplies (u : PhysicalUnit) : Reply :=
  match u.index with
  | 0 => .rows (some oneColumn) [[.text "x"]]
  | 1 => .ok 3 0
  | _ => .rows none [[.text "y"], [.null]]

/-- The rows of the other units come behind those of the first, and the counts are left out. -/
theorem paths_agree_mixed :
    (∃ r, Dispatched threeUnits false mixedReplies (.connections .connectionStrictly) r) ∧
    (∃ r, Dispatched threeUnits false mixedReplies (.connections (.memoryStrictly 500)) r) ∧
    (∃ r, Dispatched threeUnits false mixedReplies .forwarded r) ∧
    ∀ path r, Dispatched threeUnits false mixedReplies path r →
      observe .concatenate threeUnits.statement r =
        .ok (.rows oneColumn [[.text "x"], [.text "y"], [.null]]) := by
  have hunits : threeUnits.dispatchUnits false =
      [⟨0, "ds_0", "a", false⟩, ⟨1, "ds_0", "c", false⟩, ⟨2, "ds_1", "b", false⟩] := rfl
  have hregular : Regular (threeUnits.dispatchUnits false) mixedReplies := by
    rw [hunits]
    refine ⟨?_, ?_⟩
    · simp [mixedReplies, Reply.Rectangular, oneColumn, QueryMetadata.columnCount]
    · simp [mixedReplies, Reply.body, oneColumn, QueryMetadata.columnCount]
  obtain ⟨⟨o, ho, hagree⟩, hconnections, hforwarded⟩ := paths_agree (by decide) hregular
  refine ⟨hconnections _, hconnections _, hforwarded (by decide), ?_⟩
  intro path r hd
  rw [hagree path r hd]
  cases ho with
  | failed _ he _ =>
      unfold mixedReplies at he
      split at he <;> cases he
  | rows _ _ h0 hr =>
      rw [mixedReplies, h0] at hr
      cases hr
      rw [hunits]
      rfl
  | counts _ _ h0 hr =>
      rw [mixedReplies, h0] at hr
      cases hr

end ScatterGather
