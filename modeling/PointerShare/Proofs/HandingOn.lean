/-
# A pointer is handed on wholly or not at all

An inbound station hands the pointer that it consumes on to a third station by
up to three calls. It prepares the link from the pointer's host to the third
station, unless it is prepared already; it starts the devices over this link;
and it stops the link by which the pointer came to itself. If this last call
fails, the pointer would have two users, so the new link is stopped again.

A bookkeeper writes down every call that the station makes and how each step of
its transition ended (`Station.deeds`). `Relay.Closes` lists the ways in which a
relay can end, with all that was done until then and all that peers are told.
`Relay.Underway` says how far it has come; each move leaves it there, takes it
one step further, or ends it in one of these ways. That it ends is no more than
that its errand ends in time.

Key definitions: `Deed`, `Station.deeds`, `Relay`, `Relay.Closes`,
`Relay.Underway`.
Key theorems: `Relay.Closes.unique`, `Relay.Underway.proceeds`,
`Station.closes_of_proceeds`, `Station.relay_wholly_or_not`.
-/
import PointerShare.Proofs.Failing
import PointerShare.Proofs.InTime
import PointerShare.Proofs.LettingGo

namespace PointerShare

/-- What a station does about its calls: it makes one, or a step of its transition ends. -/
inductive Deed where
  | makes (kind : CallKind) (args : CallArgs)
  | ends (kind : CallKind) (args : CallArgs) (outcome : Outcome)
  deriving DecidableEq, Repr

namespace Station

/-- The step of a transition that ends with a move, with what it was issued with. -/
def conclusions (s : Station) (m : Move) : List Deed :=
  ((s.endings m).filter fun call => call.completion.isTransition).flatMap fun call =>
    ((s.control.calls.get call.kind).filter fun x => x.request == call.request).toList.map
      fun x => .ends call.kind x.args call.outcome

/-- What is done about calls with a move: first a step ends, then calls are made. -/
def deeds (s : Station) (m : Move) : List Deed :=
  s.conclusions m ++ (s.issues m).map fun e => .makes e.kind e.call.args

end Station

/-! ### The ways a relay can end -/

/-- A consumed pointer that is to be handed on. -/
structure Relay where
  shared : Dhid
  /-- The station that hosts the pointer. -/
  origin : NetworkId
  target : NetworkId
  device : DeviceId
  /-- The station that hands it on. -/
  home : NetworkId
  /-- What is started: the device with its keyboards. -/
  dhids : List Dhid
  /-- Where the cursor is at that moment. -/
  place : Location
  /-- The link from the host to the target is prepared already. -/
  linked : Bool
  ne : target ≠ origin

/-- How a relay can end. -/
inductive Relay.Way where
  | done
  /-- The new link is not up, and nothing was done about the old one. -/
  | nothing (reason : Reason)
  /-- The old link could not be stopped, so the new one was stopped again. -/
  | undone
  deriving DecidableEq, Repr

/-- What observers hear of it. -/
def Relay.Way.notice (target : NetworkId) : Way → Notice
  | done => .of .infoSuccess target
  | nothing reason => .failed .infoFail target reason
  | undone => .failed .infoFail target .partialRelayFailure

namespace Relay

variable (r : Relay)

/-- The errand of a relay. -/
def errand : Errand := .start (.inbound r.shared) r.place r.target r.device

/-- What is carried along, with the devices that are known so far. -/
def plan (dhids : List Dhid) : StartPlan := ⟨r.target, r.device, r.origin, dhids, true⟩

/-- The new link, as it is prepared. -/
def bare : CallArgs := ⟨r.origin, r.target, []⟩

/-- The new link, as it is started and stopped. -/
def onward : CallArgs := ⟨r.origin, r.target, r.dhids⟩

/-- The link by which the pointer came. -/
def former : CallArgs := ⟨r.origin, r.home, r.dhids⟩

/-- The new link is prepared, unless it is so already. -/
def opening : List Deed :=
  if r.linked then [] else [.makes .prepare r.bare, .ends .prepare r.bare .succeeded]

def announcement : Dispatch := .announceStart r.home r.target

/-- What peers are told in the end when the relay fails. -/
def failure : Dispatch := .startResult r.target false r.shared r.place

/-- What peers are told in the end when it succeeds: the host, unless it is the station itself, hears
who uses its pointer now. -/
def success : List Dispatch :=
  .startResult r.target true r.shared r.place ::
    if r.origin = r.home then [] else [.relayAnnounce r.origin r.target]

/-- The ways a relay can end, each with all that was done about calls and all that peers are told. -/
inductive Closes : Way → List Deed → List Dispatch → Prop
  | done (hd : r.dhids ≠ []) :
      Closes .done
        (r.opening ++ [.makes .start r.onward, .ends .start r.onward .succeeded,
          .makes .stop r.former, .ends .stop r.former .succeeded])
        (r.announcement :: r.success)
  | unprepared (o : Outcome) (reason : Reason) (ho : o.reason? = some reason)
      (hl : r.linked = false) :
      Closes (.nothing .prepareFailed) [.makes .prepare r.bare, .ends .prepare r.bare o]
        [r.announcement, r.failure]
  | lacking (hd : r.dhids = []) :
      Closes (.nothing .noShareableDevice) r.opening [r.announcement, r.failure]
  | unstarted (o : Outcome) (reason : Reason) (ho : o.reason? = some reason) (hd : r.dhids ≠ []) :
      Closes (.nothing reason) (r.opening ++ [.makes .start r.onward, .ends .start r.onward o])
        [r.announcement, r.failure]
  | undone (o : Outcome) (reason : Reason) (ho : o.reason? = some reason) (hd : r.dhids ≠ []) :
      Closes .undone
        (r.opening ++ [.makes .start r.onward, .ends .start r.onward .succeeded,
          .makes .stop r.former, .ends .stop r.former o, .makes .stop r.onward])
        [r.announcement, r.failure]

/-- How a relay ended, read off the last thing that was done about calls. -/
def Way.ofLast? : Option Deed → Option Way
  | none => some (.nothing .noShareableDevice)
  | some (.ends .prepare _ o) =>
    some (.nothing (if o.isSuccess then .noShareableDevice else .prepareFailed))
  | some (.ends .start _ o) => o.reason?.map .nothing
  | some (.ends .stop _ .succeeded) => some .done
  | some (.makes .stop _) => some .undone
  | some _ => none

variable {r}

theorem Closes.ofLast? {way : Way} {made : List Deed} {sent : List Dispatch} (h : r.Closes way made sent) :
    Way.ofLast? made.getLast? = some way := by
  cases h with
  | done hd => simp [Way.ofLast?]
  | unprepared o reason ho hl =>
    have hfailed : o.isSuccess = false := by cases o <;> first | rfl | cases ho
    simp [Way.ofLast?, hfailed]
  | lacking hd =>
    unfold opening
    split <;> simp [Way.ofLast?, Outcome.isSuccess]
  | unstarted o reason ho hd => simp [Way.ofLast?, ho]
  | undone o reason ho hd => simp [Way.ofLast?]

/-- A relay that fails lets its target know. -/
theorem Closes.failure_mem {way : Way} {made : List Deed} {sent : List Dispatch}
    (h : r.Closes way made sent) (hway : way ≠ .done) : r.failure ∈ sent := by
  cases h with
  | done => exact absurd rfl hway
  | _ => exact List.mem_cons_of_mem _ (List.mem_singleton_self _)

/-- What was done tells how it ended. -/
theorem Closes.unique {way way' : Way} {made : List Deed} {sent sent' : List Dispatch}
    (h : r.Closes way made sent) (h' : r.Closes way' made sent') : way = way' :=
  Option.some.inj (h.ofLast?.symm.trans h'.ofLast?)

end Relay

/-! ### How far a relay has come -/

namespace Relay

/-- The step that a relay waits for, and all that was done until then. -/
inductive At (r : Relay) (c : Control) : List Deed → Prop
  | preparing (n : RequestId) (hl : r.linked = false)
      (hk : c.calls.get .prepare = some ⟨n, r.bare, .prepared (r.plan [])⟩) :
      At r c [.makes .prepare r.bare]
  | starting (n : RequestId) (hd : r.dhids ≠ [])
      (hk : c.calls.get .start = some ⟨n, r.onward, .started (r.plan r.dhids)⟩) :
      At r c (r.opening ++ [.makes .start r.onward])
  | leaving (n : RequestId) (hd : r.dhids ≠ [])
      (hk : c.calls.get .stop = some ⟨n, r.former, .originStopped (r.plan r.dhids)⟩) :
      At r c (r.opening ++ [.makes .start r.onward, .ends .start r.onward .succeeded,
        .makes .stop r.former])

/-- A relay is under way, and `made` is what was done for it. -/
structure Underway (r : Relay) (s : Station) (made : List Deed) : Prop where
  speaks : s.Speaks
  recorded : ∃ l, s.control.Recorded l
  phase : Phase s.control (some r.errand)
  home : s.home = r.home
  dhids : s.registry.shareable r.device = r.dhids
  host : s.originOf? r.shared = some r.origin
  stage : r.At s.control made

/-- A move leaves a relay under way, or ends it. -/
def Proceeds (r : Relay) (s : Station) (m : Move) (made : List Deed) (sent : List Dispatch) : Prop :=
  r.Underway (s.step m) (made ++ s.deeds m) ∧ sent ++ s.queued m = [r.announcement] ∨
    (s.step m).guard = .idle ∧ ∃ way ns, r.Closes way (made ++ s.deeds m) (sent ++ s.queued m) ∧
      s.Tells m ns (s.queued m) ∧ way.notice r.target ∈ ns ∧ (way = .done → (s.step m).role = .free)

end Relay

namespace Station

variable {s : Station} {m : Move} {r : Relay} {made : List Deed}

/-! ### What a move does about calls -/

theorem conclusions_of_ne (hm : m ≠ .take) : s.conclusions m = [] := by
  cases m with
  | take => exact absurd rfl hm
  | _ => rfl

/-- A step that ends is concluded with what it was issued with. -/
theorem conclusions_of_ending {call : Resolved Continuation} {args : CallArgs}
    (hc : s.ending? = some call) (ht : call.completion.isTransition = true)
    (hk : s.control.calls.get call.kind = some ⟨call.request, args, call.completion⟩) :
    s.conclusions .take = [.ends call.kind args call.outcome] := by
  have hlast : (s.endings .take).filter (fun call => call.completion.isTransition) = [call] := by
    simp [endings, hc, ht]
  rw [conclusions, hlast, List.flatMap_singleton, hk, Option.filter_some, if_pos (by simp)]
  rfl

theorem conclusions_of_aside {c : Control} {ds : List Dispatch} (ha : Aside s m c ds) :
    s.conclusions m = [] := by
  by_cases hm : m = .take
  · subst hm
    have hnone : (s.endings .take).filter (fun call => call.completion.isTransition) = [] := by
      refine List.filter_eq_nil_iff.mpr fun call hc => ?_
      rw [ha.ends rfl call (Option.mem_toList.mp hc)]
      exact Bool.false_ne_true
    rw [conclusions, hnone]
    rfl
  · exact conclusions_of_ne hm

section deeds

variable {c : Control} (hcontrol : (s.step m).control = c)
include hcontrol

theorem deeds_of_sheds (h : s.control.Sheds c) : s.deeds m = s.conclusions m := by
  rw [deeds, issues, hcontrol, h.fresh, List.map_nil, List.append_nil]

theorem deeds_of_adds {k : CallKind} {args : CallArgs} {next : Continuation}
    (h : s.control.Adds c k args next) {l : List Entry} (hl : s.control.Recorded l) :
    s.deeds m = s.conclusions m ++ [.makes k args] := by
  rw [deeds, issues, hcontrol, h.fresh hl.numbered]
  rfl

end deeds

end Station

/-! ### One step further -/

namespace Relay

variable {r : Relay} {s : Station} {m : Move} {made : List Deed}

/-- What stays pending is still waited for. -/
theorem At.of_held {c c' : Control} (h : r.At c made)
    (hheld : ∀ k x, c.calls.get k = some x → x.completion.isTransition = true →
      c'.calls.get k = some x) : r.At c' made := by
  cases h with
  | preparing n hl hk => exact .preparing n hl (hheld _ _ hk rfl)
  | starting n hd hk => exact .starting n hd (hheld _ _ hk rfl)
  | leaving n hd hk => exact .leaving n hd (hheld _ _ hk rfl)

/-- How a relay that ends shows. -/
theorem proceeds_of_shows (way : Way) {c : Control} {ns : List Notice} {ds sent : List Dispatch}
    (hs : Station.Shows s (s.step m) c ns ds) (hg : c.guard = .idle)
    (hcloses : r.Closes way (made ++ s.deeds m) (sent ++ ds)) (hn : way.notice r.target ∈ ns)
    (hrole : way = .done → c.role = .free) : r.Proceeds s m made sent := by
  have hqueued : s.queued m = ds := hs.queued
  refine .inr ⟨(congrArg Control.guard hs.control).trans hg, way, ns, ?_, ⟨hs.published, rfl⟩, hn,
    fun h => (congrArg Control.role hs.control).trans (hrole h)⟩
  rw [hqueued]
  exact hcloses

/-- What the target of a relay that fails is told. -/
theorem failure_eq {c : Control} (hb : r.errand.Between c) :
    .startResult r.target false (c.dhidFor r.device) c.startLocation = r.failure := by
  have hplace : c.startLocation = r.place := hb.placed.symm
  have hrole : c.role = .inbound r.shared := hb.role
  rw [hplace, Control.dhidFor, hrole]
  rfl

/-- The link is prepared: the devices are started over it, or there are none. -/
theorem proceeds_of_shares {c₁ c : Control} {n : Notice} {ns : List Notice} {ds ds' sent : List Dispatch}
    (hrecorded : ∃ l, s.control.Recorded l) (hsheds : s.control.Sheds c₁) (hb : r.errand.Between c₁)
    (hdhids : c₁.registry.shareable r.device = r.dhids) (hshares : Shares c₁ (r.plan []) c ns ds')
    (hs : Station.Shows s (s.step m) c (n :: ns) (ds ++ ds'))
    (hmade : made ++ s.conclusions m = r.opening) (hsent : sent ++ ds = [r.announcement])
    (hnext : (s.step m).guard.isBusy = true → ∀ {made'}, r.At (s.step m).control made' →
      r.Underway (s.step m) made') : r.Proceeds s m made sent := by
  cases hshares with
  | calls dhids hd hne =>
    obtain rfl : dhids = r.dhids := hd.symm.trans hdhids
    obtain ⟨l, hl⟩ := hrecorded
    have hdeeds := Station.deeds_of_adds hs.control (hsheds.issue _ _ _) hl
    have hqueued : s.queued m = ds ++ [] := hs.queued
    have hguard : (s.step m).guard = r.errand.guard := (congrArg Control.guard hs.control).trans hb.guard
    refine .inl ⟨hnext (by rw [hguard, r.errand.isBusy_guard]) ?_, ?_⟩
    · rw [hdeeds, ← List.append_assoc, hmade, hs.control]
      exact .starting _ hne (c₁.get_issue _ _ _)
    · rw [hqueued, List.append_nil, hsent]
  | lacks hd =>
    have hdeeds := Station.deeds_of_sheds hs.control (hsheds.trans (.of_same rfl rfl rfl))
    have hfails : Station.Shows s (s.step m) c₁.failed _ (ds ++ [r.failure]) := failure_eq hb ▸ hs
    refine proceeds_of_shows (.nothing .noShareableDevice) hfails rfl ?_
      (List.mem_cons_of_mem _ (List.mem_singleton_self _)) nofun
    rw [hdeeds, hmade, ← List.append_assoc, hsent]
    exact .lacking (hdhids.symm.trans hd)

/-- A move that leaves the errand of a relay open leaves all that the relay is made of. -/
theorem underway_of_open {e : Option Errand} {l : List Entry} (hw : s.Speaks)
    (hl : s.control.Recorded l) (h : Phase s.control e)
    (hafter : Station.errandAfter e s m = some r.errand) (hrole : s.role = .inbound r.shared)
    (hm : m.keepsDevices = true) (hhome : s.home = r.home)
    (hdhids : s.registry.shareable r.device = r.dhids) (hhost : s.originOf? r.shared = some r.origin)
    (hstage : r.At (s.step m).control made) : r.Underway (s.step m) made := by
  have hphase := Station.phase_step m hw h
  rw [hafter] at hphase
  have hregistry := Station.registry_of_keeps hw hm
  have hpeer := Station.sessionPeer_of_open hw h hafter (by rw [hrole]; rfl)
  refine ⟨Station.speaks_step m hw, ⟨_, Station.recorded_step hw hl⟩, hphase, ?_, ?_, ?_, hstage⟩
  · exact (congrArg Registry.home hregistry).trans hhome
  · rw [hregistry]
    exact hdhids
  · rw [Station.originOf?, hregistry, hpeer]
    exact hhost

namespace Underway

theorem busy (h : r.Underway s made) : s.guard.isBusy = true := h.phase.isBusy

theorem role (h : r.Underway s made) : s.role = .inbound r.shared := h.phase.role

/-- A move after which the guard is busy leaves all that the relay is made of. -/
theorem next (h : r.Underway s made) (hm : m.keepsDevices = true)
    (hb : (s.step m).guard.isBusy = true) {made' : List Deed} (hstage : r.At (s.step m).control made') :
    r.Underway (s.step m) made' := by
  obtain ⟨l, hl⟩ := h.recorded
  refine underway_of_open h.speaks hl h.phase ?_ h.role hm h.home h.dhids h.host hstage
  rw [Station.errandAfter, if_pos hb, Station.begins_of_busy h.busy, Option.none_or]

section ending

variable {call : Resolved Continuation}

/-- The step that ends is the one that the relay waits for. -/
theorem concludes (h : r.Underway s made) (hc : s.ending? = some call)
    (ht : call.completion.isTransition = true) {k : CallKind} {x : Call Continuation}
    (hk : s.control.calls.get k = some x) (hx : x.completion.isTransition = true) :
    call.completion = x.completion ∧ s.conclusions .take = [.ends k x.args call.outcome] ∧
      (call.outcome.reason? = none → call.outcome = .succeeded) := by
  obtain ⟨t, he, -⟩ := Station.take_of_ending hc
  obtain ⟨_, -, -, hsup, -⟩ := h.phase.ends_step he ht
  obtain ⟨args, hget⟩ := he.get_args hsup
  obtain rfl : call.kind = k := h.phase.kind_of_steps hget hk ht hx
  obtain rfl : x = ⟨call.request, args, call.completion⟩ := Option.some.inj (hk.symm.trans hget)
  exact ⟨rfl, Station.conclusions_of_ending hc ht hget, succeeded_of_reason?⟩

/-- What peers are told when a relay succeeds. -/
theorem success_eq (h : r.Underway s made) :
    .startResult r.target true r.shared s.startLocation :: s.control.handOn r.target r.shared =
      r.success := by
  have hplace : s.startLocation = r.place := h.phase.placed.symm
  have hhost : (s.control.registry.originOfDhid? r.shared <|> s.control.sessionPeer) = some r.origin :=
    h.host
  have hhome : s.control.registry.home = r.home := h.home
  rw [hplace, Control.handOn, hhost, success]
  simp only [hhome, r.ne.symm, or_false]

theorem between (h : r.Underway s made) (ht : call.completion.isTransition = true) {c : Control}
    (he : Ends s.control call c) : r.errand.Between c := by
  obtain ⟨_, hr, -, -, hb⟩ := h.phase.ends_step he ht
  cases hr
  exact hb

/-- The link has been prepared, or has not. -/
theorem proceeds_prepared (h : r.Underway s [.makes .prepare r.bare]) (hl : r.linked = false)
    (hc : s.ending? = some call) (hn : call.completion = .prepared (r.plan []))
    (hconcludes : s.conclusions .take = [.ends .prepare r.bare call.outcome])
    (hsucceeded : call.outcome.reason? = none → call.outcome = .succeeded) :
    r.Proceeds s .take [.makes .prepare r.bare] [r.announcement] := by
  have ht : call.completion.isTransition = true := by rw [hn]; rfl
  cases ho : call.outcome.reason? with
  | none =>
    obtain ⟨c, c', ns, ds, he, hshares, hdoes⟩ := Station.does_opens hc hn ho
    have hsheds : s.control.Sheds { c with link := ⟨r.origin, r.target⟩ } :=
      (Control.Sheds.of_ends he).trans (.of_same rfl rfl rfl)
    refine proceeds_of_shares h.recorded hsheds ((h.between ht he).setLink _) ?_ hshares
      (hdoes.shows h.speaks) ?_ rfl (h.next rfl)
    · exact (congrArg (Registry.shareable · r.device) he.same.registry).trans h.dhids
    · rw [hconcludes, hsucceeded ho, opening, hl]
      rfl
  | some reason =>
    obtain ⟨c, he, hdoes⟩ := Station.does_opensNot hc hn ho
    have hdeeds := Station.deeds_of_sheds hdoes.control ((Control.Sheds.of_ends he).trans (.of_same rfl rfl rfl))
    have hfails : Station.Does s _ _ _ [r.failure] := failure_eq (h.between ht he) ▸ hdoes
    refine proceeds_of_shows (.nothing .prepareFailed) (hfails.shows h.speaks) rfl ?_
      (List.mem_cons_of_mem _ (List.mem_singleton_self _)) nofun
    rw [hdeeds, hconcludes]
    exact .unprepared _ reason ho hl

/-- The devices have been started, or have not. -/
theorem proceeds_started (h : r.Underway s (r.opening ++ [.makes .start r.onward])) (hd : r.dhids ≠ [])
    (hc : s.ending? = some call) (hn : call.completion = .started (r.plan r.dhids))
    (hconcludes : s.conclusions .take = [.ends .start r.onward call.outcome])
    (hsucceeded : call.outcome.reason? = none → call.outcome = .succeeded) :
    r.Proceeds s .take (r.opening ++ [.makes .start r.onward]) [r.announcement] := by
  have ht : call.completion.isTransition = true := by rw [hn]; rfl
  cases ho : call.outcome.reason? with
  | none =>
    obtain ⟨c, he, hdoes⟩ := Station.does_stopsOrigin hc hn ho rfl
    obtain ⟨l, hl⟩ := h.recorded
    have hdeeds := Station.deeds_of_adds hdoes.control ((Control.Sheds.of_ends he).issue _ _ _) hl
    have hqueued : s.queued .take = [] := (hdoes.shows h.speaks).queued
    have hguard : (s.step .take).guard = s.guard :=
      (congrArg Control.guard hdoes.control).trans he.same.guard
    refine .inl ⟨h.next rfl (hguard ▸ h.busy) ?_, by rw [hqueued]; rfl⟩
    have hmade : s.deeds .take = [.ends .start r.onward .succeeded, .makes .stop r.former] := by
      rw [hdeeds, hconcludes, hsucceeded ho, former, ← h.home]
      rfl
    rw [hmade, List.append_assoc, hdoes.control]
    refine .leaving ⟨c.issued + 1⟩ hd ?_
    rw [Control.get_issue, former, ← h.home]
    rfl
  | some reason =>
    obtain ⟨c, he, hdoes⟩ := Station.does_startFails hc (by rw [hn]; rfl) ho
    have hdeeds := Station.deeds_of_sheds hdoes.control ((Control.Sheds.of_ends he).trans (.of_same rfl rfl rfl))
    have hfails : Station.Does s _ _ _ [r.failure] := failure_eq (h.between ht he) ▸ hdoes
    refine proceeds_of_shows (.nothing reason) (hfails.shows h.speaks) rfl ?_ (List.mem_singleton_self _) nofun
    rw [hdeeds, hconcludes, List.append_assoc]
    exact .unstarted _ reason ho hd

/-- The link by which the pointer came has been stopped, or has not. -/
theorem proceeds_left (h : r.Underway s (r.opening ++ [.makes .start r.onward,
      .ends .start r.onward .succeeded, .makes .stop r.former])) (hd : r.dhids ≠ [])
    (hc : s.ending? = some call) (hn : call.completion = .originStopped (r.plan r.dhids))
    (hconcludes : s.conclusions .take = [.ends .stop r.former call.outcome])
    (hsucceeded : call.outcome.reason? = none → call.outcome = .succeeded) :
    r.Proceeds s .take (r.opening ++ [.makes .start r.onward, .ends .start r.onward .succeeded,
      .makes .stop r.former]) [r.announcement] := by
  have ht : call.completion.isTransition = true := by rw [hn]; rfl
  cases ho : call.outcome.reason? with
  | none =>
    obtain ⟨c, he, hdoes⟩ := Station.does_handsOn hc (by rw [hn]; rfl) ho h.role
    have hdeeds := Station.deeds_of_sheds hdoes.control ((Control.Sheds.of_ends he).trans (.of_same rfl rfl rfl))
    have hsucceeds : Station.Does s _ _ _ r.success := h.success_eq ▸ hdoes
    refine proceeds_of_shows .done (hsucceeds.shows h.speaks) rfl ?_ (List.mem_singleton_self _) fun _ => rfl
    rw [hdeeds, hconcludes, hsucceeded ho, List.append_assoc]
    exact .done hd
  | some reason =>
    obtain ⟨c, he, hdoes⟩ := Station.does_rollsBack hc hn ho
    obtain ⟨l, hl⟩ := h.recorded
    have hadds := (Control.Sheds.of_ends he).issue .stop r.onward (.relayRolledBack r.target)
    have hdeeds := Station.deeds_of_adds hdoes.control
      ⟨hadds.issued, hadds.get, hadds.others, hadds.superseded⟩ hl
    have hfails : Station.Does s _ _ _ [r.failure] := failure_eq (h.between ht he) ▸ hdoes
    refine proceeds_of_shows .undone (hfails.shows h.speaks) rfl ?_ (List.mem_singleton_self _) nofun
    rw [hdeeds, hconcludes, List.append_assoc]
    exact .undone _ reason ho hd

end ending

/-- **One move of a relay.** It leaves it where it is, takes it one step further, or ends it in one
of the ways listed. -/
theorem proceeds (h : r.Underway s made) (hm : m.keepsDevices = true) (hreset : s.isReset m = false) :
    r.Proceeds s m made [r.announcement] := by
  obtain ⟨c, ns, ds, ht, hs⟩ := s.turns m h.speaks
  have hinbound : s.role.isOutbound = false := by rw [h.role]; rfl
  rcases Station.aside_or ht h.phase with ha | ⟨hreset', -⟩ | ⟨hout, -⟩ | ⟨rfl, call, hc, htr⟩
  · have hdeeds : s.deeds m = [] := by
      rw [Station.deeds_of_sheds hs.control (ha.sheds hinbound), Station.conclusions_of_aside ha]
    have hqueued : s.queued m = [] := hs.queued.trans ha.sends
    have hguard : (s.step m).guard = s.guard := (congrArg Control.guard hs.control).trans ha.guard
    refine .inl ⟨?_, by rw [hqueued]; rfl⟩
    rw [hdeeds, List.append_nil]
    refine h.next hm (hguard ▸ h.busy) (h.stage.of_held fun k x hx hn => ?_)
    rw [hs.control]
    exact ha.held k x hx hn
  · rw [hreset'] at hreset
    cases hreset
  · rw [hinbound] at hout
    cases hout
  · have hstage := h.stage
    cases hstage with
    | preparing n hl hk =>
      obtain ⟨hn, hconcludes, hsucceeded⟩ := h.concludes hc htr hk rfl
      exact h.proceeds_prepared hl hc hn hconcludes hsucceeded
    | starting n hd hk =>
      obtain ⟨hn, hconcludes, hsucceeded⟩ := h.concludes hc htr hk rfl
      exact h.proceeds_started hd hc hn hconcludes hsucceeded
    | leaving n hd hk =>
      obtain ⟨hn, hconcludes, hsucceeded⟩ := h.concludes hc htr hk rfl
      exact h.proceeds_left hd hc hn hconcludes hsucceeded

end Underway

end Relay

namespace Station

/-! ### The whole relay -/

section run

variable {s : Station} {m : Move} {r : Relay} {made : List Deed} {sent : List Dispatch} {rest : List Move}

/-- What a station that consumes the pointer `shared` of `origin` is about to do when it is told to hand
it on to `target`. -/
def relay (s : Station) (shared : Dhid) (origin target : NetworkId) (device : DeviceId)
    (hne : target ≠ origin) : Relay where
  shared := shared
  origin := origin
  target := target
  device := device
  home := s.home
  dhids := s.registry.shareable device
  place := s.cursor.location
  linked := s.link.joins origin target
  ne := hne

theorem publishes_cons {n : Notice} (h : (s.step m).Publishes rest n) : s.Publishes (m :: rest) n := by
  obtain ⟨before, last, after, ns, ds, rfl, ht, hn⟩ := h
  exact ⟨m :: before, last, after, ns, ds, rfl, ht, hn⟩

/-- A relay that is accepted is under way with the move that accepts it, or ended at once. -/
theorem proceeds_of_accepted {e : Option Errand} (hw : s.Speaks) {l : List Entry}
    (hl : s.control.Recorded l) (h : Phase s.control e) {shared : Dhid} {origin target : NetworkId}
    {device : DeviceId} (hm : m = .event (.request (.start target device)))
    (hrole : s.role = .inbound shared) (hhost : s.originOf? shared = some origin)
    (hne : target ≠ origin) (hok : (s.start target device).1 = .ok ()) :
    (s.relay shared origin target device hne).Proceeds s m [] [] := by
  let r := s.relay shared origin target device hne
  have hplan : s.planStart target device = .ok (.relay (r.plan [])) := by
    obtain ⟨route, hp⟩ := start_accepted_iff_planned.mp hok
    rcases planStart_cases hp with ⟨hfree, -⟩ | ⟨d, o, hd, ho, hroute⟩
    · rw [hrole] at hfree
      cases hfree
    · rw [hrole] at hd
      cases hd
      obtain rfl : origin = o := Option.some.inj (hhost.symm.trans ho)
      rw [hp, (hroute.resolve_left fun hback => hne hback.1).2]
      rfl
  have hroute {route : StartRoute} {plan : StartPlan} (hp : s.planStart target device = .ok route)
      (hr : route = .share plan ∨ route = .relay plan) : plan = r.plan [] := by
    rw [hplan] at hp
    cases hp
    rcases hr with hr | hr <;> cases hr
    rfl
  have hbetween : r.errand.Between (s.control.begin s.cursor.location) := by
    have hb := between_begin h (guard_of_planStart hplan) s.cursor.location target device
    rwa [hrole] at hb
  have hsheds : s.control.Sheds (s.control.begin s.cursor.location) := .of_same rfl rfl rfl
  have hnext (hb : (s.step m).guard.isBusy = true) {made : List Deed}
      (hstage : r.At (s.step m).control made) : r.Underway (s.step m) made := by
    refine Relay.underway_of_open hw hl h ?_ hrole (by rw [hm]; rfl) rfl rfl hhost hstage
    rw [errandAfter, if_pos hb, hm, begins_of_start hok, Option.some_or, hrole]
    rfl
  have hconclusions : s.conclusions m = [] := conclusions_of_ne (by simp [hm])
  obtain ⟨c, ns, ds, ht, hs⟩ := s.turns m hw
  subst hm
  cases ht with
  | rest _ hstart =>
    rw [startRoute?, hplan] at hstart
    cases hstart
  | prepares _ _ route plan hp hr hlink =>
    obtain rfl := hroute hp hr
    have hdeeds := deeds_of_adds hs.control (hsheds.issue _ _ _) hl
    have hguard : (s.step (.event (.request (.start target device)))).guard = .starting :=
      congrArg Control.guard hs.control
    refine .inl ⟨hnext (by rw [hguard]; rfl) ?_, hs.queued⟩
    rw [hdeeds, hconclusions, hs.control]
    exact .preparing _ hlink (Control.get_issue _ _ _ _)
  | sharesAtOnce _ _ route plan hp hr hlink hshares =>
    obtain rfl := hroute hp hr
    have hs' : Shows s _ c (_ :: _) ([r.announcement] ++ _) := hs
    refine Relay.proceeds_of_shares ⟨l, hl⟩ hsheds hbetween rfl hshares hs' ?_ rfl hnext
    have hlinked : r.linked = true := hlink
    rw [hconclusions, Relay.opening, if_pos hlinked]
    rfl
  | comesBack _ _ plan hp =>
    rw [hplan] at hp
    cases hp
  | stops _ _ hstop => cases hstop

/-- **A relay ends in one of the ways listed**, whatever else is handled until the guard is idle again. -/
theorem closes_of_proceeds (h : r.Proceeds s m made sent)
    (hkeep : ∀ m ∈ rest, m.keepsDevices = true)
    (hreset : Along step (fun s m => s.isReset m = false) (s.step m) rest)
    (hbusy : Along step (fun s _ => s.guard.isBusy = true) (s.step m) rest)
    (hidle : (s.run (m :: rest)).guard = .idle) :
    ∃ way, r.Closes way (made ++ s.gather deeds (m :: rest)) (sent ++ s.gather queued (m :: rest)) ∧
      s.Publishes (m :: rest) (way.notice r.target) ∧
      (way = .done → (s.run (m :: rest)).role = .free) := by
  induction rest generalizing s m made sent with
  | nil =>
    rcases h with ⟨hunderway, -⟩ | ⟨-, way, ns, hcloses, htells, hn, hrole⟩
    · have hb := hunderway.busy
      rw [show (s.step m).guard = .idle from hidle] at hb
      cases hb
    · refine ⟨way, ?_, ⟨[], m, [], ns, _, rfl, htells, hn⟩, hrole⟩
      simpa only [gather, List.append_nil] using hcloses
  | cons m' rest ih =>
    rcases h with ⟨hunderway, hsent⟩ | ⟨hg, -⟩
    · have hproceeds := hunderway.proceeds (hkeep m' List.mem_cons_self) hreset.1
      rw [← hsent] at hproceeds
      obtain ⟨way, hcloses, hpublishes, hrole⟩ := ih hproceeds
        (fun m hm => hkeep m (List.mem_cons_of_mem _ hm)) hreset.2 hbusy.2 hidle
      refine ⟨way, ?_, publishes_cons hpublishes, hrole⟩
      simpa only [gather, List.append_assoc] using hcloses
    · have hb : (s.step m).guard.isBusy = true := hbusy.1
      rw [hg] at hb
      cases hb

end run

/-- **A pointer is handed on wholly or not at all.** Say that a station consumes the pointer `shared`
of `origin`, and that a start to `target` is accepted. Let happen what may until the guard is idle
again, but for devices that come and go and for the host leaving the network: all that was done
about calls by then, and all that peers were told, is listed for just one way in which a relay can
end. Observers hear of it. The station is free if the pointer was handed on; otherwise it consumes it
as before, with its session and the watch on it and all else that it held, and no link is prepared.
If nothing is put off, the guard is idle again by the time that three calls can wait. -/
theorem relay_wholly_or_not (settings : Settings) (registry : Registry) (before : List Move)
    (shared : Dhid) (origin target : NetworkId) (device : DeviceId) (hne : target ≠ origin)
    (hrole : ((create settings registry).run before).role = .inbound shared)
    (hhost : ((create settings registry).run before).originOf? shared = some origin)
    (hok : (((create settings registry).run before).start target device).1 = .ok ()) :
    let s := (create settings registry).run before
    let start : Move := .event (.request (.start target device))
    let r := s.relay shared origin target device hne
    (∀ rest : List Move, (∀ m ∈ rest, m.keepsDevices = true) →
      Along step (fun s m => s.isReset m = false) (s.step start) rest →
      Along step (fun s _ => s.guard.isBusy = true) (s.step start) rest →
      let ms := start :: rest
      let s' := s.run ms
      s'.guard = .idle → ∃ way, r.Closes way (s.gather deeds ms) (s.gather queued ms) ∧
        (∀ way', r.Closes way' (s.gather deeds ms) (s.gather queued ms) → way' = way) ∧
        s.Publishes ms (way.notice target) ∧ (way = .done → s'.role = .free) ∧
        (way ≠ .done → s'.role = .inbound shared ∧ s'.sessionPeer = s.sessionPeer ∧
          s'.watched = s.watched ∧ s'.link = .none ∧
          s'.holding = ms.foldl Holding.after s.holding)) ∧
    ∀ rest : List Move, Along step Prompt (s.step start) rest →
      s.now + settings.timeout * (settings.retries + 1) * 3 < (s.run (start :: rest)).now →
      ∃ mid tail, rest = mid ++ tail ∧
        Along step (fun s _ => s.guard.isBusy = true) (s.step start) mid ∧
        (s.run (start :: mid)).guard = .idle := by
  intro s start r
  have hw : s.Speaks := speaks_run settings registry before
  have hl := recorded_run settings registry before
  have h : Phase s.control _ := phase_run settings registry before
  constructor
  · intro rest hkeep hreset hbusy ms s' hidle
    obtain ⟨way, hcloses, hpublishes, hfree⟩ := closes_of_proceeds
      (proceeds_of_accepted hw hl h rfl hrole hhost hne hok) hkeep hreset hbusy hidle
    refine ⟨way, hcloses, fun way' h' => h'.unique hcloses, hpublishes, hfree, fun hway => ?_⟩
    have hfailure : r.failure ∈ s.gather queued ms := hcloses.failure_mem hway
    obtain ⟨-, hlink, hheld, -⟩ := failed_start hw h hok hbusy hfailure
    obtain ⟨_, _, hsame⟩ := Holding.foldl_after ms s.holding
    have hkept := hheld.trans hsame
    exact ⟨(congrArg Holding.role hkept).trans hrole, congrArg Holding.sessionPeer hkept,
      congrArg Holding.watched hkept, hlink, hheld⟩
  · intro rest hprompt hlate
    have hnow : (s.step start).now = s.now := now_step rfl
    rw [← hnow] at hlate
    exact errand_ends_in_time settings registry before (begins_of_start hok) hprompt hlate

/-- The pointer of `b` is handed on to `c`: once wholly, once while stop calls fail, and once while
the service does not answer. -/
theorem handed_on_and_taken_back :
    let a := create ⟨8, 1000, 2, 1000, .center⟩ besideRemote
    let consuming : List Move := [.event (.signal (.startRequest ⟨"b"⟩)),
      .event (.signal (.startResult ⟨"b"⟩ true ⟨"n"⟩ .center))]
    let failing : List Move := consuming ++ [.happen (.mood .stop .fail)]
    let silent : List Move := consuming ++ [.happen (.mood .prepare .silent)]
    let start : Move := .event (.request (.start ⟨"c"⟩ ⟨2⟩))
    let wholly := (a.run consuming).run [start, .take, .take, .take, .take, .take]
    let taken := (a.run failing).run [start, .take, .take, .take, .take]
    let waiting : List Move := [.happen (.clock 1000), .take, .happen (.clock 2000), .take,
      .happen (.clock 3000), .take, .happen (.clock 9001)]
    wholly.role = .free ∧ taken.role = .inbound ⟨"n"⟩ ∧ taken.sessionPeer = some ⟨"b"⟩ ∧
      taken.link = .none ∧
      .makes .stop ⟨⟨"b"⟩, ⟨"c"⟩, [⟨"n"⟩]⟩ ∈
        (a.run failing).gather deeds [start, .take, .take, .take, .take] ∧
      ∃ mid tail, waiting = mid ++ tail ∧ ((a.run silent).run (start :: mid)).guard = .idle := by
  intro a consuming failing silent start wholly taken waiting
  obtain ⟨way, hcloses, -, -, hfree, -⟩ := (relay_wholly_or_not ⟨8, 1000, 2, 1000, .center⟩
    besideRemote consuming ⟨"n"⟩ ⟨"b"⟩ ⟨"c"⟩ ⟨2⟩ (by decide) (by decide +kernel) (by decide +kernel)
    rfl).1 [.take, .take, .take, .take, .take] (by simp [Move.keepsDevices]) (by decide +kernel)
    (by decide +kernel) (by decide +kernel)
  obtain ⟨way', hcloses', -, -, -, hkept⟩ := (relay_wholly_or_not ⟨8, 1000, 2, 1000, .center⟩
    besideRemote failing ⟨"n"⟩ ⟨"b"⟩ ⟨"c"⟩ ⟨2⟩ (by decide) (by decide +kernel) (by decide +kernel)
    rfl).1 [.take, .take, .take, .take] (by simp [Move.keepsDevices]) (by decide +kernel)
    (by decide +kernel) (by decide +kernel)
  obtain ⟨mid, tail, hwaiting, -, hidle⟩ := (relay_wholly_or_not ⟨8, 1000, 2, 1000, .center⟩
    besideRemote silent ⟨"n"⟩ ⟨"b"⟩ ⟨"c"⟩ ⟨2⟩ (by decide) (by decide +kernel) (by decide +kernel)
    rfl).2 waiting (by decide +kernel) (by decide +kernel)
  have hdone : way = .done := by
    refine Option.some.inj (hcloses.ofLast?.symm.trans ?_)
    decide +kernel
  have hundone : way' = .undone := by
    refine Option.some.inj (hcloses'.ofLast?.symm.trans ?_)
    decide +kernel
  obtain ⟨hrole, hpeer, -, hlink, -⟩ := hkept (by rw [hundone]; decide)
  refine ⟨hfree hdone, hrole, hpeer.trans ?_, hlink, ?_, mid, tail, hwaiting, hidle⟩
  · decide +kernel
  · decide +kernel

end Station

end PointerShare
