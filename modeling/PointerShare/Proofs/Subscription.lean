/-
# The relay subscription and the service's listener

That a gateway is subscribed to relay events is written down twice: in its own
flag, and with the service, which holds one listener. Subscribing sets the flag
once the service has taken the listener. Unsubscribing clears it before the
service is asked to let go of the listener, and if that fails the two differ
from then on: the gateway believes that there is nothing to end, and the service
has no room for another listener. Nothing else touches either of them.

Key definitions: `Gateway.Agrees`, `Gateway.Orphans`, `Gateway.LetsGo`.
Key theorems: `Gateway.agrees_deal`, `Gateway.orphans_deal`,
`Gateway.agrees_unless_orphaned`.
-/
import PointerShare.Proofs.Exchange

namespace PointerShare

variable {κ : Type}

namespace Gateway

/-- The gateway is subscribed if and only if the service holds its listener. -/
def Agrees (g : Gateway κ) : Prop := g.subscribed = g.service.hasListener

/-- The service holds a listener of which the gateway knows nothing. -/
def Orphans (g : Gateway κ) : Prop := g.subscribed = false ∧ g.service.hasListener = true

/-- Ending the subscription, if that is the dealing, does not fail. -/
def LetsGo (g : Gateway κ) (d : Dealing κ) : Prop := d = .unsubscribe → g.unsubscribe.1 = .ok ()

variable {g : Gateway κ}

theorem Agrees.not_orphans (h : g.Agrees) : ¬ g.Orphans := fun ⟨hs, hl⟩ => by
  rw [Agrees, hs, hl] at h
  cases h

/-! ### One dealing -/

/-- Only subscribing and unsubscribing concern the listener. -/
theorem listener_deal (g : Gateway κ) {d : Dealing κ} (hs : d ≠ .subscribe) (hu : d ≠ .unsubscribe) :
    (g.deal d).subscribed = g.subscribed ∧
      (g.deal d).service.hasListener = g.service.hasListener := by
  cases d with
  | subscribe => exact absurd rfl hs
  | unsubscribe => exact absurd rfl hu
  | issue k args c =>
    refine ⟨rfl, ?_⟩
    show (g.service.take _).hasListener = _
    unfold InputService.take
    split <;> rfl
  | take =>
    cases hq : g.mailbox.queue with
    | nil => rw [deal_take_of_nil hq]; exact ⟨rfl, rfl⟩
    | cons p ps => rw [deal_take_of_cons hq]; exact ⟨rfl, rfl⟩
  | relay event =>
    unfold deal emitRelay
    dsimp only
    split <;> exact ⟨rfl, rfl⟩
  | cancelAll | answer | clock | ring | mood | listenerFaults => exact ⟨rfl, rfl⟩

/-- What subscribing comes to while the two agree. -/
theorem Agrees.subscribe (h : g.Agrees) :
    g.subscribe.1 = (if g.subscribed = false ∧ g.service.registerFails = true
      then .error .unavailable else .ok ()) ∧
    (g.subscribe.1 = .ok () →
      g.subscribe.2.subscribed = true ∧ g.subscribe.2.service.hasListener = true) ∧
    (g.subscribe.1 ≠ .ok () → g.subscribe.2 = g) := by
  unfold Agrees at h
  unfold Gateway.subscribe InputService.register
  cases hs : g.subscribed with
  | true =>
    rw [hs] at h
    exact ⟨rfl, fun _ => ⟨hs, h.symm⟩, fun hne => absurd rfl hne⟩
  | false =>
    rw [hs] at h
    cases hf : g.service.registerFails <;> simp [← h]

theorem Agrees.unsubscribe (h : g.Agrees) :
    g.unsubscribe.1 = (if g.subscribed = true ∧ g.service.unregisterFails = true
      then .error .unavailable else .ok ()) ∧
    (g.unsubscribe.1 = .ok () →
      g.unsubscribe.2.subscribed = false ∧ g.unsubscribe.2.service.hasListener = false) ∧
    (g.unsubscribe.1 ≠ .ok () → g.unsubscribe.2.Orphans) := by
  unfold Agrees at h
  unfold Gateway.unsubscribe InputService.unregister Orphans
  cases hs : g.subscribed with
  | false =>
    rw [hs] at h
    exact ⟨rfl, fun _ => ⟨hs, h.symm⟩, fun hne => absurd rfl hne⟩
  | true =>
    rw [hs] at h
    cases hf : g.service.unregisterFails <;> simp [← h]

/-- As long as unsubscribing does not fail, the two go on to agree. -/
theorem agrees_deal (h : g.Agrees) {d : Dealing κ} (hd : g.LetsGo d) : (g.deal d).Agrees := by
  by_cases hs : d = .subscribe
  · subst hs
    obtain ⟨-, hok, herr⟩ := h.subscribe
    show g.subscribe.2.Agrees
    by_cases ho : g.subscribe.1 = .ok ()
    · exact (hok ho).1.trans (hok ho).2.symm
    · rw [herr ho]
      exact h
  · by_cases hu : d = .unsubscribe
    · subst hu
      obtain ⟨-, hok, -⟩ := h.unsubscribe
      exact (hok (hd rfl)).1.trans (hok (hd rfl)).2.symm
    · obtain ⟨hsub, hlis⟩ := g.listener_deal hs hu
      exact hsub.trans (h.trans hlis.symm)

/-- If it fails, the listener is orphaned. -/
theorem orphans_of_not_letsGo (h : g.Agrees) {d : Dealing κ} (hd : ¬ g.LetsGo d) :
    (g.deal d).Orphans := by
  obtain ⟨rfl, hfail⟩ := Classical.not_imp.mp hd
  exact h.unsubscribe.2.2 hfail

/-- What subscribing and unsubscribing come to with an orphaned listener: nothing. -/
theorem Orphans.refused (h : g.Orphans) :
    g.subscribe = (.error (if g.service.registerFails then .unavailable else .relayAlreadyRegistered),
      g) ∧ g.unsubscribe = (.ok (), g) := by
  obtain ⟨hs, hl⟩ := h
  unfold Gateway.subscribe Gateway.unsubscribe InputService.register
  cases hf : g.service.registerFails <;> simp [hs, hl]

/-- What the service emits then is lost. -/
theorem Orphans.deaf (h : g.Orphans) (event : RelayEvent) :
    g.receive (.relay event) = (none, g) := by
  simp [receive, h.1]

theorem orphans_deal (h : g.Orphans) (d : Dealing κ) : (g.deal d).Orphans := by
  by_cases hs : d = .subscribe
  · subst hs
    show g.subscribe.2.Orphans
    rwa [h.refused.1]
  · by_cases hu : d = .unsubscribe
    · subst hu
      show g.unsubscribe.2.Orphans
      rwa [h.refused.2]
    · obtain ⟨hsub, hlis⟩ := g.listener_deal hs hu
      exact ⟨hsub.trans h.1, hlis.trans h.2⟩

/-! ### A run -/

theorem orphans_run (h : g.Orphans) (ds : List (Dealing κ)) : (ds.foldl deal g).Orphans := by
  induction ds generalizing g with
  | nil => exact h
  | cons d ds ih => exact ih (orphans_deal h d)

/-- The two agree throughout, or from some failed unsubscribing on they never do again. -/
theorem agrees_or_orphans (ds : List (Dealing κ)) : ∀ {g : Gateway κ}, g.Agrees →
    (Along deal LetsGo g ds ∧ (ds.foldl deal g).Agrees) ∨
      (¬ Along deal LetsGo g ds ∧ (ds.foldl deal g).Orphans) := by
  induction ds with
  | nil => exact fun h => .inl ⟨trivial, h⟩
  | cons d ds ih =>
    intro g h
    by_cases hd : g.LetsGo d
    · rcases ih (agrees_deal h hd) with ⟨hrest, hlast⟩ | ⟨hrest, hlast⟩
      · exact .inl ⟨⟨hd, hrest⟩, hlast⟩
      · exact .inr ⟨fun hall => hrest hall.2, hlast⟩
    · exact .inr ⟨fun hall => hd hall.1, orphans_run (orphans_of_not_letsGo h hd) ds⟩

/-- **The subscription and the listener agree until unsubscribing fails.** In every run of a gateway,
whatever else is done, they agree if and only if no unsubscribing in it has failed, and a gateway
that is subscribed always has its listener. A subscribing that fails leaves the gateway as it is.
While the two agree, subscribing fails only if the service fails to take the listener, and
unsubscribing only if it fails to let go of it, and otherwise the flag and the listener are both
set, or both cleared. After an unsubscribing that failed, throughout every later run, the gateway is
not subscribed and the service holds the listener; every subscribing is refused, and every
unsubscribing does nothing; and a relay event that the service posts is dropped. -/
theorem agrees_unless_orphaned (timeout retries : Nat) (ds : List (Dealing κ)) :
    let start : Gateway κ := .empty timeout retries
    let g := ds.foldl deal start
    let kept := Along deal LetsGo start ds
    (g.subscribed = g.service.hasListener ↔ kept) ∧
    (g.subscribed = true → g.service.hasListener = true) ∧
    (g.subscribe.1 ≠ .ok () → g.subscribe.2 = g) ∧
    (kept →
      g.subscribe.1 = (if g.subscribed = false ∧ g.service.registerFails = true
        then .error .unavailable else .ok ()) ∧
      (g.subscribe.1 = .ok () →
        g.subscribe.2.subscribed = true ∧ g.subscribe.2.service.hasListener = true) ∧
      g.unsubscribe.1 = (if g.subscribed = true ∧ g.service.unregisterFails = true
        then .error .unavailable else .ok ()) ∧
      (g.unsubscribe.1 = .ok () →
        g.unsubscribe.2.subscribed = false ∧ g.unsubscribe.2.service.hasListener = false)) ∧
    (¬ kept → ∀ later : List (Dealing κ),
      let g' := later.foldl deal g
      g'.subscribed = false ∧ g'.service.hasListener = true ∧
      g'.subscribe =
        (.error (if g'.service.registerFails then .unavailable else .relayAlreadyRegistered), g') ∧
      g'.unsubscribe = (.ok (), g') ∧ ∀ event, g'.receive (.relay event) = (none, g')) := by
  intro start g kept
  have hstart : start.Agrees := rfl
  rcases agrees_or_orphans ds hstart with ⟨hkept, hagrees⟩ | ⟨hkept, horphans⟩
  · obtain ⟨hsub, hsubok, hsuberr⟩ := hagrees.subscribe
    obtain ⟨hun, hunok, -⟩ := hagrees.unsubscribe
    exact ⟨iff_of_true hagrees hkept, fun hs => hagrees.symm.trans hs, hsuberr,
      fun _ => ⟨hsub, hsubok, hun, hunok⟩, fun hno => absurd hkept hno⟩
  · refine ⟨iff_of_false (fun h => Agrees.not_orphans h horphans) hkept, fun _ => horphans.2,
      fun _ => by rw [horphans.refused.1], fun h => absurd h hkept, fun _ later => ?_⟩
    have hlater := orphans_run horphans later
    exact ⟨hlater.1, hlater.2, hlater.refused.1, hlater.refused.2, hlater.deaf⟩

/-- A subscription whose end fails once: the service works again, and takes no listener any more. -/
theorem unsubscribed_in_vain :
    let g := ([.subscribe, .listenerFaults false true, .unsubscribe, .listenerFaults false false] :
      List (Dealing Unit)).foldl deal (.empty 10 0)
    g.subscribed = false ∧ g.service.hasListener = true ∧
      g.subscribe = (.error .relayAlreadyRegistered, g) := by
  decide

end Gateway

end PointerShare
