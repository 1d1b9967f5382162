import ScatterGather.Proofs.Connection.GivenBack

/-!
# What is said on one connection

On the connection of a call to a data source its units are sent in their order, each only when the
one before it has been answered and its outcome kept. An answer that cannot be kept is the last that
is said, and so is one that breaks its runner (`SentInTurn`). This holds of every connection along
every run (`Speaking`), since whoever says something on a connection is the one that runs its group
(`Spoken`).
-/

namespace ScatterGather

/-! ### Units in turn -/

/-- The unit that is sent. -/
def Said.unit? : Said → Option PhysicalUnit
  | .sent m => some m.unit
  | _ => none

/-- What may have been said on a connection that is to carry some units. -/
inductive SentInTurn (σ : ConnectionStrategy) : List PhysicalUnit → List Said → Prop where
  | nothing {units} : SentInTurn σ units []
  /-- The first unit has been sent. -/
  | awaited {u rest} : SentInTurn σ (u :: rest) [.sent ⟨u, σ.options u u.captures⟩]
  /-- It has been answered, and its outcome has been kept: the others follow. -/
  | kept {u rest r x said} (hk : UnitGives σ u r x) (h : SentInTurn σ rest said) :
    SentInTurn σ (u :: rest)
      (.sent ⟨u, σ.options u u.captures⟩ :: .answered u (.result r) :: said)
  /-- Its outcome could not be kept: the others are not sent. -/
  | failed {u rest r e} (hk : UnitFails σ u r e) :
    SentInTurn σ (u :: rest) [.sent ⟨u, σ.options u u.captures⟩, .answered u (.result r)]
  | broke {u rest message} :
    SentInTurn σ (u :: rest) [.sent ⟨u, σ.options u u.captures⟩, .answered u (.panic message)]
  | finished : SentInTurn σ [] [.finished]

namespace SentInTurn

variable {σ : ConnectionStrategy} {units : List PhysicalUnit} {said : List Said}

/-- The units are sent in their order. -/
theorem units_isPrefix (h : SentInTurn σ units said) : said.filterMap Said.unit? <+: units := by
  induction h with
  | nothing | finished => exact List.nil_prefix
  | awaited | failed _ | broke => exact (List.prefix_cons_inj _).mpr List.nil_prefix
  | kept _ _ ih => exact (List.prefix_cons_inj _).mpr ih

/-- A group that is finished has sent all its units. -/
theorem units_of_finished (h : SentInTurn σ units said) (hf : .finished ∈ said) :
    said.filterMap Said.unit? = units := by
  induction h with
  | nothing | awaited | failed _ | broke => simp at hf
  | kept _ _ ih =>
      replace hf := by simpa using hf
      exact congrArg _ (ih hf)
  | finished => rfl

/-- A unit is sent with what is asked for it. -/
theorem options_of_sent (h : SentInTurn σ units said) {m : SentStatement} (hm : .sent m ∈ said) :
    m.options = σ.options m.unit m.unit.captures := by
  induction h with
  | nothing | finished => simp at hm
  | awaited | failed _ | broke =>
      obtain rfl : m = _ := by simpa using hm
      rfl
  | kept _ _ ih =>
      rcases List.mem_cons.mp hm with heq | hm
      · cases heq
        rfl
      · exact ih (by simpa using hm)

end SentInTurn

/-- A runner whose group is complete says so. -/
theorem GroupRun.said?_of_completes {σ : ConnectionStrategy} {run : GroupRun} {who : Runner}
    {a : ConnectionAction} {sent : Option PhysicalUnit}
    (h : run.Moves σ who a sent (.ends .completed)) : run.said? σ a = some .finished := by
  cases h with
  | completes ha hr => simp [GroupRun.said?, GroupRun.complete, ha, hr]

/-- What has been said on a connection whose group is on its way. -/
inductive Spoken (σ : ConnectionStrategy) (units : List PhysicalUnit) (run : GroupRun) :
    List Said → Prop where
  /-- No unit is awaited: whatever is said for those that are left may follow. -/
  | between {said} (ha : run.awaited = none)
    (h : ∀ more, SentInTurn σ run.rest more → SentInTurn σ units (said ++ more)) :
    Spoken σ units run said
  /-- A unit has been sent last. -/
  | awaiting {said u} (ha : run.awaited = some u)
    (h : ∀ more, SentInTurn σ (u :: run.rest) (.sent ⟨u, σ.options u u.captures⟩ :: more) →
      SentInTurn σ units (said ++ .sent ⟨u, σ.options u u.captures⟩ :: more)) :
    Spoken σ units run (said ++ [.sent ⟨u, σ.options u u.captures⟩])

namespace Spoken

variable {σ : ConnectionStrategy} {units : List PhysicalUnit} {run run' : GroupRun}
  {said : List Said} {who : Runner} {a : ConnectionAction} {sent : Option PhysicalUnit}

theorem ofGroup (g : UnitGroup) : Spoken σ g.units (.ofGroup g) [] := .between rfl fun _ h => h

theorem sentInTurn (h : Spoken σ units run said) : SentInTurn σ units said := by
  cases h with
  | between _ h => simpa using h [] .nothing
  | awaiting _ h => exact h [] .awaited

/-- A group goes on. -/
theorem goesOn (h : Spoken σ units run said) (hm : run.Moves σ who a sent (.goesOn run')) :
    Spoken σ units run' (said ++ (run.said? σ a).toList) := by
  cases hm with
  | @sends u rest ha hr =>
      have hsaid : run.said? σ (.send who) = some (.sent ⟨u, σ.options u u.captures⟩) := by
        simp [GroupRun.said?, GroupRun.send?, ha, hr]
      rw [hsaid]
      cases h with
      | awaiting ha' _ => cases ha.symm.trans ha'
      | between _ h => exact .awaiting rfl fun more hmore => h _ (hr ▸ hmore)
  | @keeps u r x ha hk =>
      have hsaid : run.said? σ (.answer who (.result r)) = some (.answered u (.result r)) := by
        simp [GroupRun.said?, ha]
      rw [hsaid]
      cases h with
      | between ha' _ => cases ha.symm.trans ha'
      | awaiting ha' h =>
          obtain rfl := Option.some.inj (ha.symm.trans ha')
          refine .between rfl fun more hmore => ?_
          simpa using h _ (.kept (unitGives_iff.mpr hk) hmore)

/-- A group comes to its end. -/
theorem ends (h : Spoken σ units run said) {how : GroupEnd}
    (hm : run.Moves σ who a sent (.ends how)) :
    SentInTurn σ units (said ++ (run.said? σ a).toList) := by
  have awaited : ∀ {u answer}, run.awaited = some u →
      SentInTurn σ (u :: run.rest)
        [.sent ⟨u, σ.options u u.captures⟩, .answered u answer] →
      SentInTurn σ units
        (said ++ (run.said? σ (.answer who answer)).toList) := by
    intro u answer ha hsent
    have hsaid : run.said? σ (.answer who answer) = some (.answered u answer) := by
      simp [GroupRun.said?, ha]
    rw [hsaid]
    cases h with
    | between ha' _ => cases ha.symm.trans ha'
    | awaiting ha' h =>
        obtain rfl := Option.some.inj (ha.symm.trans ha')
        simpa using h _ hsent
  cases hm with
  | fails ha hk => exact awaited ha (.failed (unitFails_iff.mpr hk))
  | panics ha => exact awaited ha .broke
  | completes ha hr =>
      rw [GroupRun.said?_of_completes (.completes (σ := σ) ha hr)]
      cases h with
      | awaiting ha' _ => cases ha.symm.trans ha'
      | between _ h => exact h _ (hr ▸ .finished)

end Spoken

/-! ### What is said on the connections of a call -/

/-- What is said on the connection of a call to a data source. -/
def Talk.on? (call : Nat) (source : String) (talk : Talk) : Option Said :=
  if talk.call = call ∧ talk.source = source then some talk.said else none

/-- What has been said on the connection of a call to a data source, in its order. -/
def saidOn (call : Nat) (source : String) (said : List Talk) : List Said :=
  said.filterMap (Talk.on? call source)

section

variable {call : Nat} {source : String} {said more : List Talk}

theorem saidOn_append (call : Nat) (source : String) (said more : List Talk) :
    saidOn call source (said ++ more) = saidOn call source said ++ saidOn call source more :=
  List.filterMap_append

/-- What is said on other connections is not said on this one. -/
theorem saidOn_others (h : ∀ talk ∈ said, talk.call = call → talk.source ≠ source) :
    saidOn call source said = [] :=
  List.filterMap_eq_nil_iff.mpr fun talk htalk => if_neg fun ⟨hcall, hsource⟩ =>
    h talk htalk hcall hsource

/-- What a runner says is said on its connection. -/
theorem saidOn_map (who : Runner) (call : Nat) (source : String) (x : Option Said) :
    saidOn call source (x.map fun said => ⟨who, call, source, said⟩).toList = x.toList := by
  cases x <;> simp [saidOn, Talk.on?]

/-- It is not said on another one. -/
theorem saidOn_map_of_ne (who : Runner) (call : Nat) {source source' : String}
    (hne : source' ≠ source) (x : Option Said) :
    saidOn call source' (x.map fun said => ⟨who, call, source, said⟩).toList = [] := by
  cases x <;> simp [saidOn, Talk.on?, Ne.symm hne]

end

namespace Connection

/-- What has been said on the connections of a call, and where their groups stand. -/
structure Speaking (σ : ConnectionStrategy) (units : String → List PhysicalUnit) (call : Nat)
    (said : List Talk) (s : ConnectionEngine) : Prop where
  inTurn : ∀ source, SentInTurn σ (units source) (saidOn call source said)
  running : ∀ w run, holding? s call w = some run →
    Spoken σ (units run.dataSource) run (saidOn call run.dataSource said)

namespace Speaking

variable {σ : ConnectionStrategy} {units : String → List PhysicalUnit} {call : Nat}
  {said more : List Talk} {s s' : ConnectionEngine} {a : ConnectionAction} {groups : List UnitGroup}

/-- Nothing has been said, and nobody has a connection. -/
theorem of_none (hquiet : ∀ talk ∈ said, talk.call ≠ call) (hnone : ∀ w, holding? s call w = none) :
    Speaking σ units call said s where
  inTurn source := by
    rw [saidOn_others fun talk htalk hcall => absurd hcall (hquiet talk htalk)]
    exact .nothing
  running w run hrun := by cases (hnone w).symm.trans hrun

/-- What is said on the connections of others does not matter. -/
theorem others (h : Speaking σ units call said s) (hmore : ∀ talk ∈ more, talk.call ≠ call)
    (hheld : holding? s' call = holding? s call) : Speaking σ units call (said ++ more) s' := by
  have hsaid : ∀ source, saidOn call source (said ++ more) = saidOn call source said :=
    fun source => by
      rw [saidOn_append, saidOn_others fun talk htalk hcall => absurd hcall (hmore talk htalk),
        List.append_nil]
  constructor
  · intro source
    rw [hsaid]
    exact h.inTurn source
  · intro w run hrun
    rw [hsaid]
    exact h.running w run (hheld ▸ hrun)

/-- A runner that has a connection may say something on it, and goes on or lets go of it. -/
theorem put (h : Speaking σ units call said s) {sources : List String} {who : String → Runner}
    (hl : Launched sources call who s.events (holding? s call)) {w : Runner} {run : GroupRun}
    (hrun : holding? s call w = some run) {next : Option GroupRun} {x : Option Said}
    (hheld : holding? s' call = Function.update (holding? s call) w next)
    (hsaid : SentInTurn σ (units run.dataSource) (saidOn call run.dataSource said ++ x.toList))
    (hnext : ∀ run', next = some run' → run'.dataSource = run.dataSource ∧
      Spoken σ (units run.dataSource) run' (saidOn call run.dataSource said ++ x.toList)) :
    Speaking σ units call
      (said ++ (x.map fun said => ⟨w, call, run.dataSource, said⟩).toList) s' := by
  have hself : saidOn call run.dataSource
      (said ++ (x.map fun said => ⟨w, call, run.dataSource, said⟩).toList) =
        saidOn call run.dataSource said ++ x.toList := by
    rw [saidOn_append, saidOn_map]
  have hother : ∀ source, source ≠ run.dataSource → saidOn call source
      (said ++ (x.map fun said => ⟨w, call, run.dataSource, said⟩).toList) =
        saidOn call source said := by
    intro source hne
    rw [saidOn_append, saidOn_map_of_ne w call hne, List.append_nil]
  constructor
  · intro source
    by_cases hs : source = run.dataSource
    · rw [hs, hself]
      exact hsaid
    · rw [hother source hs]
      exact h.inTurn source
  · intro w' run' hrun'
    by_cases hw : w' = w
    · rw [hheld, hw, Function.update_self] at hrun'
      obtain ⟨hsource, hspoken⟩ := hnext run' hrun'
      rw [hsource, hself]
      exact hspoken
    · rw [hheld, Function.update_of_ne hw] at hrun'
      rw [hother]
      · exact h.running w' run' hrun'
      · -- Another runner has another connection.
        intro hsource
        have hwho := (hl.holds _ _ hrun').2.1
        rw [hsource, ← (hl.holds _ _ hrun).2.1] at hwho
        exact hw hwho

/-- When a call is launched nothing has been said on its connections. -/
theorem of_launched {first : UnitGroup} {rest : List UnitGroup} {tasks : List Nat}
    (hunits : ∀ g ∈ first :: rest, units g.dataSource = g.units)
    (hquiet : ∀ talk ∈ said, talk.call ≠ call) (hnone : ∀ w, holding? s call w = none)
    (hc' : s'.calls[call]? = some (.running (.ofGroup first) tasks))
    (hw : s.workers.run (rest.map fun g => .spawn ⟨call, .ofGroup g, none⟩) = some s'.workers) :
    Speaking σ units call said s' := by
  have hsaid : ∀ source, saidOn call source said = [] := fun source =>
    saidOn_others fun talk htalk hcall => absurd hcall (hquiet talk htalk)
  constructor
  · intro source
    rw [hsaid]
    exact .nothing
  · intro w run hrun
    obtain ⟨i, g, hg, -, rfl⟩ := (holding?_launched hnone hc' hw w run).mp hrun
    rw [hsaid]
    show Spoken σ (units g.dataSource) (.ofGroup g) []
    rw [hunits g (List.mem_of_getElem? hg)]
    exact .ofGroup g

/-- **On every connection of a call units are sent in turn**, whatever happens. -/
theorem step (h : Speaking σ units call said s) (hl : Lifecycle groups call said s)
    (hunits : ∀ g ∈ groups, units g.dataSource = g.units) (hset : s.settings.strategy = σ)
    (hm : s.Moves a s') : Speaking σ units call (said ++ (talk? s a).toList) s' := by
  subst hset
  cases turn_of_moves hm call with
  | others _ _ _ hheld htalk =>
      exact h.others (fun talk hmem => htalk talk (Option.mem_toList.mp hmem)) hheld
  | acquires hc hm hc' _ hw htalk =>
      rw [htalk, Option.toList_none, List.append_nil]
      obtain ⟨hof, -, hnone, hquiet⟩ := hl.of_stage hc
      cases hm with
      | launched hcomplete hheld =>
          obtain rfl := (hof.held_eq hcomplete).symm.trans hheld
          exact of_launched hunits hquiet hnone hc' hw
      | _ => exact of_none hquiet (none_kept hnone hc' rfl hw)
  | goesOn hrun hm _ hheld htalk =>
      obtain ⟨who, hl⟩ := hl.of_holding hrun
      have hspoken := (h.running _ _ hrun).goesOn hm
      rw [htalk]
      refine h.put hl hrun hheld hspoken.sentInTurn fun run'' heq => ?_
      obtain rfl := Option.some.inj heq
      exact ⟨hm.dataSource_eq, hspoken⟩
  | ends hrun hm _ hheld htalk =>
      obtain ⟨who, hl⟩ := hl.of_holding hrun
      rw [htalk]
      exact h.put hl hrun hheld ((h.running _ _ hrun).ends hm) nofun
  | stops hrun _ hheld htalk =>
      obtain ⟨who, hl⟩ := hl.of_holding hrun
      rw [htalk]
      exact h.put (x := none) hl hrun hheld (by simpa using h.inTurn _) nofun

end Speaking

end Connection

end ScatterGather
