import CordonWatch.Cluster.Server
import CordonWatch.Proofs.Pass.Interleaving
import CordonWatch.Proofs.Pass.Stopping

/-!
# The recorded time of the last eviction

Any number of passes run over one server, call by call and in any order, as in
`Interleaving`, and now with one clock that never goes back (`Clocked`). The server takes
in times of eviction in full or in whole seconds (`Precision`). Other clients write and
delete autoscalers as they like, but leave the last eviction as it is.

Then the time of the last eviction that the server has of an autoscaler never goes back,
and a pass records a time at which it was running (`recorded_time_never_goes_back`).

A pass stamps with the last reading of the clock, which it takes after it has received
the copy that it edits (`punctual`). The copy may be old, and the stamp is old when it
arrives. But it is accepted only if the copy is what the server has; then the server had
it already when the clock was read, and its time was not later than the clock. `Timely`
says so of all copies that the running passes have received: each is out of date, or not
later than the reading.
-/

namespace CordonWatch

/-! ### Comparing times -/

namespace Instant

theorem toNanos_wholeSeconds (t : Instant) :
    t.wholeSeconds.toNanos = t.toNanos / 10 ^ 9 * 10 ^ 9 := by
  simp only [wholeSeconds, toNanos]
  omega

theorem wholeSeconds_le (t : Instant) : t.wholeSeconds.toNanos ≤ t.toNanos := by
  rw [toNanos_wholeSeconds]
  omega

theorem wholeSeconds_mono {t t' : Instant} (h : t.toNanos ≤ t'.toNanos) :
    t.wholeSeconds.toNanos ≤ t'.wholeSeconds.toNanos := by
  rw [toNanos_wholeSeconds, toNanos_wholeSeconds]
  omega

theorem wholeSeconds_wholeSeconds (t : Instant) : t.wholeSeconds.wholeSeconds = t.wholeSeconds := by
  have hnanos : t.nanos / 10 ^ 9 * 10 ^ 9 / 10 ^ 9 * 10 ^ 9 = t.nanos / 10 ^ 9 * 10 ^ 9 := by omega
  exact Instant.ext rfl hnanos

end Instant

/-- The first time is not later than the second. An absent time is earlier than any other. -/
def NotLater : Option Instant → Option Instant → Prop
  | none, _ => True
  | some _, none => False
  | some t, some t' => t.toNanos ≤ t'.toNanos

instance (t t' : Option Instant) : Decidable (NotLater t t') :=
  match t, t' with
  | none, _ => .isTrue trivial
  | some _, none => .isFalse id
  | some t, some t' => inferInstanceAs (Decidable (t.toNanos ≤ t'.toNanos))

theorem NotLater.refl (t : Option Instant) : NotLater t t := by
  cases t with
  | none => exact trivial
  | some t => exact Int.le_refl _

theorem NotLater.trans {t t' t'' : Option Instant} (h : NotLater t t') (h' : NotLater t' t'') :
    NotLater t t'' := by
  cases t with
  | none => exact trivial
  | some t =>
    cases t' with
    | none => exact h.elim
    | some t' =>
      cases t'' with
      | none => exact h'.elim
      | some t'' => exact Int.le_trans h h'

/-- How a server takes in times of eviction. -/
inductive Precision where
  | full
  | seconds
  deriving DecidableEq, Repr

namespace Precision

/-- A time as it is taken in. -/
def cut : Precision → Instant → Instant
  | .full, t => t
  | .seconds, t => t.wholeSeconds

/-- An autoscaler as it is taken in. -/
def taken : Precision → Autoscaler → Autoscaler
  | .full, a => a
  | .seconds, a => Cluster.Server.receivedAutoscaler a

variable (precision : Precision)

theorem cut_le (t : Instant) : (precision.cut t).toNanos ≤ t.toNanos := by
  cases precision with
  | full => exact Int.le_refl _
  | seconds => exact t.wholeSeconds_le

theorem cut_mono {t t' : Instant} (h : t.toNanos ≤ t'.toNanos) :
    (precision.cut t).toNanos ≤ (precision.cut t').toNanos := by
  cases precision with
  | full => exact h
  | seconds => exact Instant.wholeSeconds_mono h

theorem cut_cut (t : Instant) : precision.cut (precision.cut t) = precision.cut t := by
  cases precision with
  | full => rfl
  | seconds => exact t.wholeSeconds_wholeSeconds

end Precision

theorem NotLater.map_cut {t t' : Option Instant} (h : NotLater t t') (precision : Precision) :
    NotLater (t.map precision.cut) (t'.map precision.cut) := by
  cases t with
  | none => exact trivial
  | some t =>
    cases t' with
    | none => exact h.elim
    | some t' => exact precision.cut_mono h

/-- The time of the last eviction that an autoscaler records. -/
def Autoscaler.evictionTime (a : Autoscaler) : Option Instant := a.spec.lastEviction.evictionTime

theorem evictionTime_taken (precision : Precision) (a : Autoscaler) :
    (precision.taken a).evictionTime = a.evictionTime.map precision.cut := by
  cases precision with
  | full =>
    show a.evictionTime = a.evictionTime.map fun t => t
    exact Option.map_id'.symm
  | seconds => rfl

theorem placeOf_taken (precision : Precision) (a : Autoscaler) :
    placeOf (precision.taken a) = placeOf a := by
  cases precision with
  | full => rfl
  | seconds => rfl

/-- A time of eviction that is held after another one. It is not earlier as the server
takes in times, and not earlier at all if the first is a time as the server takes it in. -/
structure GoesOn (precision : Precision) (t t' : Option Instant) : Prop where
  cut : NotLater (t.map precision.cut) (t'.map precision.cut)
  exact : t.map precision.cut = t → NotLater t t' ∧ t'.map precision.cut = t'

theorem GoesOn.refl (precision : Precision) (t : Option Instant) : GoesOn precision t t :=
  ⟨.refl _, fun h => ⟨.refl _, h⟩⟩

theorem GoesOn.trans {precision : Precision} {t t' t'' : Option Instant}
    (h : GoesOn precision t t') (h' : GoesOn precision t' t'') : GoesOn precision t t'' where
  cut := h.cut.trans h'.cut
  exact := by
    intro ht
    obtain ⟨hle, ht'⟩ := h.exact ht
    obtain ⟨hle', ht''⟩ := h'.exact ht'
    exact ⟨hle.trans hle', ht''⟩

/-- A later time may follow as it is taken in. -/
theorem goesOn_of_notLater {precision : Precision} {t : Option Instant} {r : Instant}
    (h : NotLater t (some r)) : GoesOn precision t (some (precision.cut r)) where
  cut := by
    have hcut := h.map_cut precision
    rwa [Option.map_some, ← precision.cut_cut] at hcut
  exact := by
    intro ht
    have hcut := h.map_cut precision
    rw [ht] at hcut
    exact ⟨hcut, congrArg some (precision.cut_cut r)⟩

namespace Store

/-! ### Passes stamp with the last reading of the clock -/

/-- A program that gives up makes no further call, so it keeps any rules. -/
theorem GivesUp.keeps {α κ : Type} {e : Failure} {p : Attempt α} (hp : GivesUp e p)
    (c : Program.Conduct Call Call.Answer κ) (k : κ) : p.Keeps c Program.Unasked k := by
  induction p with
  | done result => exact trivial
  | ask | readClock => exact hp.elim
  | note entry next ih => exact ih hp

/-- A program that fails fast keeps the rules if they allow its calls at any time. -/
theorem FailsFast.keeps {α κ : Type} {allowed : Call → Prop} {p : Attempt α}
    (hp : FailsFast allowed p) {c : Program.Conduct Call Call.Answer κ}
    (hallows : ∀ k call, allowed call → c.allows k call) (k : κ) :
    p.Keeps c Program.Unasked k := by
  induction p generalizing k with
  | done result => exact trivial
  | ask call next ih =>
    obtain ⟨hcall, hfailed, hnext⟩ := hp
    refine ⟨hallows k call hcall, fun answer => ?_⟩
    cases answer with
    | error e => exact (hfailed e).keeps c _
    | ok result => exact ih (.ok result) (hnext result) _
  | readClock next ih => exact fun now => ih now (hp now) _
  | note entry next ih => exact ih hp k

/-- Evictions are recorded with the time that the clock showed when it was read, with
nothing asked since. -/
def punctual : Program.Conduct Call Call.Answer (Option Instant) where
  allows reading
    | .updateAutoscaler a => ∃ now, reading = some now ∧ a.evictionTime = some now
    | .getNode _ | .podsOnNode _ | .listAutoscalers _ | .getBudget _ _ | .updatePodStatus _ => True
  hears _ _ _ := none
  sees _ now := some now

end Store

namespace Pass

open Store (Call Attempt punctual)

theorem punctual_findPolicy (order : PolicyOrder) (pod : Pod) (reading : Option Instant) :
    (findPolicy order pod).Keeps punctual Program.Unasked reading := by
  refine (failsFast_findPolicy order pod).keeps (fun k call hcall => ?_) _
  cases call with
  | updateAutoscaler a => exact hcall.elim
  | getNode | podsOnNode | listAutoscalers | getBudget | updatePodStatus => exact trivial

theorem punctual_markPod (ns : String) (pod : Pod) (reading : Option Instant) :
    (markPod ns pod).Keeps punctual Program.Unasked reading := by
  intro now
  show Program.Keeps _ _ (if (pod.setCondition (.evictionAnticipated now)).2 then _ else _) _
  split
  · refine ⟨trivial, fun answer => ?_⟩
    match answer with
    | .error e => exact trivial
    | .ok () => exact trivial
  · exact trivial

theorem punctual_recordEviction (ns : String) (pod : Pod) (policy : Autoscaler) (written : Written)
    (reading : Option Instant) :
    (recordEviction ns pod policy written).Keeps punctual Program.Unasked reading := by
  intro now
  refine ⟨⟨now, rfl, rfl⟩, fun answer => ?_⟩
  match answer with
  | .error e => exact trivial
  | .ok stored => exact trivial

theorem punctual_handlePod (node : String) (pod : Pod) (policy : Autoscaler) (written : Written)
    (reading : Option Instant) :
    (handlePod node pod policy written).Keeps punctual Program.Unasked reading := by
  refine (punctual_markPod pod.nsOrDefault pod reading).bind fun k result _ => ?_
  match result with
  | .error e => exact trivial
  | .ok () => exact punctual_recordEviction _ _ _ _ k

theorem punctual_handlePods (order : PolicyOrder) (node : String) (pods : List Pod) :
    ∀ (written : Written) (changed : Bool) (reading : Option Instant),
      (handlePods order node pods written changed).Keeps punctual Program.Unasked reading := by
  induction pods with
  | nil => exact fun _ _ _ => trivial
  | cons pod rest ih =>
    intro written changed reading
    refine (punctual_findPolicy order pod reading).bind fun k found _ => ?_
    match found with
    | .error e => exact trivial
    | .ok none => exact ih written changed k
    | .ok (some policy) =>
      refine (punctual_handlePod node pod policy written k).bind fun k' result _ => ?_
      match result with
      | .error e => exact trivial
      | .ok written' => exact ih written' true k'

/-- Passes stamp with the last reading of the clock. -/
theorem punctual_overNode (config : Config) (name : String) :
    (overNode config name).Keeps punctual Program.Unasked none := by
  refine ⟨trivial, fun answer => ?_⟩
  match answer with
  | .error e => exact trivial
  | .ok none => exact trivial
  | .ok (some node) =>
    dsimp only
    split
    · exact trivial
    · refine ⟨trivial, fun answer => ?_⟩
      match answer with
      | .error e => exact trivial
      | .ok pods =>
        refine (punctual_handlePods config.order name pods _ _ _).bind fun k result _ => ?_
        match result with
        | .error e => exact trivial
        | .ok changed =>
          dsimp only
          split
          · exact trivial
          · exact trivial

end Pass

namespace Store

/-! ### Passes, other writers and a clock -/

/-- A world with a clock, and the time at which each pass began. -/
structure Clocked where
  world : World
  now : Instant
  began : Nat → Instant

namespace Clocked

/-- How a call may be answered, and what it leaves: as in any world, but that the times
of an autoscaler that is written are taken in with the precision of the server. -/
inductive Receives (precision : Precision) (w : World) : (call : Call) → call.Answer → World → Prop
  | other {call : Call} {answer : call.Answer} {w' : World} (h : w.Answers call answer w')
    (hcall : ∀ a, call ≠ .updateAutoscaler a) : Receives precision w call answer w'
  | refused (a : Autoscaler) (e : Failure) :
    Receives precision w (.updateAutoscaler a) (.error e) w
  | stored {a held : Autoscaler} {version : String}
    (there : Shelf.at? (placeOf a) w.autoscalers.shelf = some held)
    (current : versionOf held = versionOf a)
    (new : w.autoscalers.IsNew (withVersion (some version) (precision.taken a))) :
    Receives precision w (.updateAutoscaler a)
      (.ok (withVersion (some version) (precision.taken a)))
      { w with autoscalers :=
          w.autoscalers.store (withVersion (some version) (precision.taken a)) }

/-- What may happen next: time passes; a pass begins or goes on; or another client writes
or deletes an object. Another client leaves the last eviction of an autoscaler as it is,
and creates none with one that is still to come. -/
inductive Step (precision : Precision) : Clocked → Clocked → Prop
  | tick (c : Clocked) {now : Instant} (later : c.now.toNanos ≤ now.toNanos) :
    Step precision c { c with now }
  | begin (c : Clocked) (i : Nat) (config : Pass.Config) (node : String) :
    Step precision c { c with
      world := c.world.setPass i (Pass.overNode config node)
      began := fun j => if j = i then c.now else c.began j }
  | ask {c : Clocked} {w : World} {i : Nat} {call : Call}
    {next : call.Answer → Attempt Pass.Outcome} {answer : call.Answer}
    (pass : c.world.passes i = some (.ask call next))
    (answers : Receives precision c.world call answer w) :
    Step precision c { c with world := w.setPass i (next answer) }
  | readClock {c : Clocked} {i : Nat} {next : Instant → Attempt Pass.Outcome}
    (pass : c.world.passes i = some (.readClock next)) :
    Step precision c { c with world := c.world.setPass i (next c.now) }
  | note {c : Clocked} {i : Nat} {entry : Note} {next : Attempt Pass.Outcome}
    (pass : c.world.passes i = some (.note entry next)) :
    Step precision c { c with world := c.world.setPass i next }
  | putPod {c : Clocked} {pod : Pod} (new : c.world.pods.IsNew pod) :
    Step precision c { c with world := { c.world with pods := c.world.pods.store pod } }
  | removePod (c : Clocked) (place : Place) :
    Step precision c { c with world := { c.world with pods := c.world.pods.discard place } }
  | putAutoscaler {c : Clocked} {a : Autoscaler} (new : c.world.autoscalers.IsNew a)
    (same : ∀ held, Shelf.at? (placeOf a) c.world.autoscalers.shelf = some held →
      a.spec.lastEviction = held.spec.lastEviction)
    (past : Shelf.at? (placeOf a) c.world.autoscalers.shelf = none →
      NotLater a.evictionTime (some c.now)) :
    Step precision c
      { c with world := { c.world with autoscalers := c.world.autoscalers.store a } }
  | removeAutoscaler (c : Clocked) (place : Place) :
    Step precision c
      { c with world := { c.world with autoscalers := c.world.autoscalers.discard place } }

/-- A beginning: no pass has begun, no version was held twice, and no last eviction that
is held is still to come. -/
structure Initial (c : Clocked) : Prop where
  world : c.world.Initial
  past : ∀ place a, Shelf.at? place c.world.autoscalers.shelf = some a →
    NotLater a.evictionTime (some c.now)

/-- What comes about from a beginning. -/
inductive Reachable (precision : Precision) : Clocked → Prop
  | initial {c : Clocked} (h : c.Initial) : Reachable precision c
  | step {c c' : Clocked} (h : Reachable precision c) (hstep : Step precision c c') :
    Reachable precision c'

/-- What comes after, where all the while an autoscaler stands at the place. -/
inductive Stays (precision : Precision) (place : Place) : Clocked → Clocked → Prop
  | here (c : Clocked) : Stays precision place c c
  | on {c c' c'' : Clocked} (h : Stays precision place c c') (hstep : Step precision c' c'')
    (there : (Shelf.at? place c''.world.autoscalers.shelf).isSome = true) :
    Stays precision place c c''

/-- What comes after in any way. -/
inductive Later (precision : Precision) : Clocked → Clocked → Prop
  | here (c : Clocked) : Later precision c c
  | on {c c' c'' : Clocked} (h : Later precision c c') (hstep : Step precision c' c'') :
    Later precision c c''

variable {precision : Precision} {c c' : Clocked}

/-! ### What a running pass knows -/

/-- A running pass edits copies of what was held at some time, and stamps with its last
reading of the clock. It took the reading while it was running, when no copy that is
still what the server has was later. -/
structure Informed (c : Clocked) (i : Nat) (p : Attempt Pass.Outcome) (known : List Object)
    (reading : Option Instant) : Prop where
  begun : (c.began i).toNanos ≤ c.now.toNanos
  copying : p.Keeps copying Program.Unasked known
  punctual : p.Keeps punctual Program.Unasked reading
  held : ∀ a, .autoscaler a ∈ known → a ∈ c.world.autoscalers.ever
  read : ∀ r, reading = some r →
    (c.began i).toNanos ≤ r.toNanos ∧ r.toNanos ≤ c.now.toNanos ∧
      ∀ a, .autoscaler a ∈ known →
        Shelf.at? (placeOf a) c.world.autoscalers.shelf = some a → NotLater a.evictionTime (some r)

/-- No version was held twice, no last eviction that is held is still to come, and of
what the running passes know the same holds. -/
structure Timely (c : Clocked) : Prop where
  sound : c.world.autoscalers.Sound
  past : ∀ place a, Shelf.at? place c.world.autoscalers.shelf = some a →
    NotLater a.evictionTime (some c.now)
  passes : ∀ i p, c.world.passes i = some p → ∃ known reading, Informed c i p known reading

/-- Time does not go back, nothing that was held is forgotten, and what is not held any
more does not come back. -/
structure Onward (c c' : Clocked) : Prop where
  now : c.now.toNanos ≤ c'.now.toNanos
  ever : ∀ a ∈ c.world.autoscalers.ever, a ∈ c'.world.autoscalers.ever
  shelf : ∀ a ∈ c.world.autoscalers.ever,
    Shelf.at? (placeOf a) c'.world.autoscalers.shelf = some a →
      Shelf.at? (placeOf a) c.world.autoscalers.shelf = some a

theorem Onward.of_autoscalers (hnow : c.now.toNanos ≤ c'.now.toNanos)
    (h : c'.world.autoscalers = c.world.autoscalers) : Onward c c' where
  now := hnow
  ever := fun _ ha => h ▸ ha
  shelf := fun _ _ hat => h ▸ hat

/-- What is stored is new, so nothing comes back by it. -/
theorem Onward.of_store {a : Autoscaler} (hnow : c'.now = c.now)
    (h : c'.world.autoscalers = c.world.autoscalers.store a) (hnew : c.world.autoscalers.IsNew a) :
    Onward c c' where
  now := hnow ▸ Int.le_refl _
  ever := fun b hb => h ▸ List.mem_cons_of_mem a hb
  shelf := by
    intro b hb hat
    rw [h, Held.store, Shelf.at?_put] at hat
    split at hat
    next hplace =>
      cases hat
      exact absurd rfl (hnew a hb rfl)
    next => exact hat

theorem Informed.onward {i : Nat} {p : Attempt Pass.Outcome} {known : List Object}
    {reading : Option Instant} (h : Informed c i p known reading) (hon : Onward c c')
    (hbegan : c'.began i = c.began i) : Informed c' i p known reading where
  begun := hbegan ▸ Int.le_trans h.begun hon.now
  copying := h.copying
  punctual := h.punctual
  held := fun a ha => hon.ever a (h.held a ha)
  read := by
    intro r hr
    obtain ⟨hfrom, hto, hcopies⟩ := h.read r hr
    refine ⟨hbegan ▸ hfrom, Int.le_trans hto hon.now, fun a ha hat => ?_⟩
    exact hcopies a ha (hon.shelf a (h.held a ha) hat)

/-- A pass that has come to something else, as far as what it knows allows that. -/
theorem Timely.setPass (h : Timely c) (i : Nat) {p : Attempt Pass.Outcome} {known : List Object}
    {reading : Option Instant} (hp : Informed c i p known reading) :
    Timely { c with world := c.world.setPass i p } where
  sound := h.sound
  past := h.past
  passes := by
    intro j q hq
    rw [show (c.world.setPass i p).passes j = if j = i then some p else c.world.passes j from rfl]
      at hq
    split at hq
    next hj =>
      cases hq
      subst hj
      exact ⟨known, reading, ⟨hp.begun, hp.copying, hp.punctual, hp.held, hp.read⟩⟩
    next =>
      obtain ⟨known', reading', hknown⟩ := h.passes j q hq
      exact ⟨known', reading', ⟨hknown.begun, hknown.copying, hknown.punctual, hknown.held,
        hknown.read⟩⟩

/-- Where passes neither begin nor go on, what they know stays as good as it was. -/
theorem Timely.onward (h : Timely c) (hon : Onward c c') (hsound : c'.world.autoscalers.Sound)
    (hpast : ∀ place a, Shelf.at? place c'.world.autoscalers.shelf = some a →
      NotLater a.evictionTime (some c'.now))
    (hpasses : c'.world.passes = c.world.passes) (hbegan : c'.began = c.began) : Timely c' where
  sound := hsound
  past := hpast
  passes := by
    intro i p hp
    obtain ⟨known, reading, hknown⟩ := h.passes i p (hpasses ▸ hp)
    exact ⟨known, reading, hknown.onward hon (congrFun hbegan i)⟩

/-! ### The stamp of an accepted write -/

/-- A pass whose write is accepted has stamped it while it was running, and no earlier
than what the write replaces. -/
theorem Timely.stamp (h : Timely c) {i : Nat} {a held : Autoscaler}
    {next : Call.Answer (.updateAutoscaler a) → Attempt Pass.Outcome}
    (pass : c.world.passes i = some (.ask (.updateAutoscaler a) next))
    (there : Shelf.at? (placeOf a) c.world.autoscalers.shelf = some held)
    (current : versionOf held = versionOf a) :
    ∃ r, a.evictionTime = some r ∧ NotLater held.evictionTime (some r) ∧
      (c.began i).toNanos ≤ r.toNanos ∧ r.toNanos ≤ c.now.toNanos := by
  obtain ⟨known, reading, hknown⟩ := h.passes i _ pass
  obtain ⟨⟨copy, pod, now, hcopy, rfl⟩, -⟩ := hknown.copying
  obtain ⟨⟨r, hreading, htime⟩, -⟩ := hknown.punctual
  obtain ⟨hfrom, hto, hcopies⟩ := hknown.read r hreading
  have hsame : held = copy := h.sound.eq_of_version (hknown.held copy hcopy) there current
  subst hsame
  exact ⟨r, htime, hcopies held hcopy there, hfrom, hto⟩

/-! ### What steps keep -/

theorem autoscalers_of_answers {w w' : World} {call : Call} {answer : call.Answer}
    (h : w.Answers call answer w') (hcall : ∀ a, call ≠ .updateAutoscaler a) :
    w'.autoscalers = w.autoscalers ∧ w'.passes = w.passes := by
  cases h with
  | failed | node | pods | autoscalers | budget | podStored => exact ⟨rfl, rfl⟩
  | @autoscalerStored a => exact absurd rfl (hcall a)

/-- What is at a place after an answer of the server was there before, or the pass whose
call was answered has written it. -/
theorem Receives.at?_cases {w w' : World} {call : Call} {answer : call.Answer}
    (h : Receives precision w call answer w') {place : Place} {a' : Autoscaler}
    (hat : Shelf.at? place w'.autoscalers.shelf = some a') :
    Shelf.at? place w.autoscalers.shelf = some a' ∨
      ∃ a held, call = .updateAutoscaler a ∧ placeOf a = place ∧
        Shelf.at? place w.autoscalers.shelf = some held ∧ versionOf held = versionOf a ∧
        a'.evictionTime = a.evictionTime.map precision.cut := by
  cases h with
  | other h hcall =>
    rw [(autoscalers_of_answers h hcall).1] at hat
    exact Or.inl hat
  | refused a e => exact Or.inl hat
  | @stored a held version there current new =>
    have hplace : placeOf (withVersion (some version) (precision.taken a)) = placeOf a :=
      placeOf_taken precision a
    rw [Held.store, Shelf.at?_put, hplace] at hat
    split at hat
    next hat' =>
      cases hat
      subst hat'
      exact Or.inr ⟨a, held, rfl, rfl, there, current, evictionTime_taken precision a⟩
    next => exact Or.inl hat

/-- What an answer does to what the passes know. -/
theorem Receives.onward {w : World} {call : Call} {answer : call.Answer}
    (h : Receives precision c.world call answer w) :
    Onward c { c with world := w } ∧ (c.world.autoscalers.Sound → w.autoscalers.Sound) ∧
      w.passes = c.world.passes ∧
      ∀ a, .autoscaler a ∈ call.copies answer → a ∈ w.autoscalers.ever := by
  cases h with
  | other h hcall =>
    obtain ⟨hautoscalers, hpasses⟩ := autoscalers_of_answers h hcall
    refine ⟨.of_autoscalers (Int.le_refl _) hautoscalers, fun hs => hautoscalers ▸ hs, hpasses,
      fun a ha => ?_⟩
    exact h.copies (.autoscaler a) ha
  | refused a e =>
    exact ⟨.of_autoscalers (Int.le_refl _) rfl, id, rfl, fun _ ha => absurd ha List.not_mem_nil⟩
  | stored there current new =>
    refine ⟨.of_store rfl rfl new, fun hs => hs.store new, rfl, fun a ha => ?_⟩
    cases List.mem_singleton.mp ha
    exact List.mem_cons_self ..

/-- Each step keeps what is known in time. -/
theorem Timely.step (h : Timely c) (hstep : Step precision c c') : Timely c' := by
  cases hstep with
  | tick later =>
    refine h.onward (.of_autoscalers later rfl) h.sound (fun place a hat => ?_) rfl rfl
    exact (h.past place a hat).trans later
  | begin i config node =>
    refine ⟨h.sound, h.past, fun j q hq => ?_⟩
    rw [show (c.world.setPass i (Pass.overNode config node)).passes j
      = if j = i then some (Pass.overNode config node) else c.world.passes j from rfl] at hq
    split at hq
    next hj =>
      cases hq
      refine ⟨[], none, ?_, ?_, ?_, ?_, ?_⟩
      · simp [hj]
      · exact (Pass.keeps_overNode config node).unasked
      · exact Pass.punctual_overNode config node
      · exact fun a ha => absurd ha List.not_mem_nil
      · exact fun r hr => nomatch hr
    next hj =>
      obtain ⟨known, reading, hknown⟩ := h.passes j q hq
      exact ⟨known, reading, hknown.onward (.of_autoscalers (Int.le_refl _) rfl) (if_neg hj)⟩
  | @ask w i call next answer pass answers =>
    obtain ⟨known, reading, hknown⟩ := h.passes i _ pass
    obtain ⟨hon, hsound, hpasses, hcopies⟩ := answers.onward
    have hafter : Timely { c with world := w } := by
      refine h.onward hon (hsound h.sound) (fun place a' hat => ?_) hpasses rfl
      rcases answers.at?_cases hat with hat | ⟨a, held, rfl, rfl, there, current, htime⟩
      · exact h.past place a' hat
      · obtain ⟨r, hr, -, -, hto⟩ := h.stamp pass there current
        rw [htime, hr]
        exact Int.le_trans (precision.cut_le r) hto
    have hinformed := hknown.onward hon rfl
    refine @Timely.setPass _ hafter i _ (call.copies answer ++ known) none
      ⟨hinformed.begun, hknown.copying.2 answer, hknown.punctual.2 answer, fun a ha => ?_,
        fun r hr => nomatch hr⟩
    rcases List.mem_append.mp ha with ha | ha
    · exact hcopies a ha
    · exact hinformed.held a ha
  | @readClock i next pass =>
    obtain ⟨known, reading, hknown⟩ := h.passes i _ pass
    refine @Timely.setPass _ h i _ known (some c.now)
      ⟨hknown.begun, hknown.copying c.now, hknown.punctual c.now, hknown.held, fun r hr => ?_⟩
    cases hr
    exact ⟨hknown.begun, Int.le_refl _, fun a _ hat => h.past _ a hat⟩
  | @note i entry next pass =>
    obtain ⟨known, reading, hknown⟩ := h.passes i _ pass
    exact h.setPass i
      ⟨hknown.begun, hknown.copying, hknown.punctual, hknown.held, hknown.read⟩
  | putPod | removePod =>
    exact h.onward (.of_autoscalers (Int.le_refl _) rfl) h.sound h.past rfl rfl
  | @putAutoscaler a new same past =>
    refine h.onward (.of_store rfl rfl new) (h.sound.store new) (fun place b hat => ?_) rfl rfl
    rw [Held.store, Shelf.at?_put] at hat
    split at hat
    next =>
      cases hat
      cases hheld : Shelf.at? (placeOf a) c.world.autoscalers.shelf with
      | none => exact past hheld
      | some held =>
        have heviction : a.evictionTime = held.evictionTime :=
          congrArg Eviction.evictionTime (same held hheld)
        rw [heviction]
        exact h.past _ held hheld
    next => exact h.past place b hat
  | removeAutoscaler place =>
    have hremoved : ∀ place' a,
        Shelf.at? place' (c.world.autoscalers.discard place).shelf = some a →
          Shelf.at? place' c.world.autoscalers.shelf = some a := by
      intro place' a hat
      rw [Held.discard, Shelf.at?_remove] at hat
      split at hat
      · cases hat
      · exact hat
    exact h.onward ⟨Int.le_refl _, fun _ ha => ha, fun a _ hat => hremoved _ a hat⟩
      (h.sound.discard place) (fun place' a hat => h.past _ a (hremoved place' a hat)) rfl rfl

theorem Reachable.timely (h : Reachable precision c) : Timely c := by
  induction h with
  | initial h =>
    refine ⟨h.world.autoscalers, h.past, fun i p hp => ?_⟩
    rw [h.world.passes i] at hp
    cases hp
  | step h hstep ih => exact ih.step hstep

theorem Later.now_le (h : Later precision c c') : c.now.toNanos ≤ c'.now.toNanos := by
  induction h with
  | here => exact Int.le_refl _
  | on _ hstep ih =>
    cases hstep with
    | tick later => exact Int.le_trans ih later
    | begin | ask | readClock | note | putPod | removePod | putAutoscaler | removeAutoscaler =>
      exact ih

/-! ### What is held goes on -/

/-- What a step leaves at a place has a time that goes on from what was there. -/
theorem Timely.goesOn (h : Timely c) (hstep : Step precision c c') {place : Place}
    {a a' : Autoscaler} (hat : Shelf.at? place c.world.autoscalers.shelf = some a)
    (hat' : Shelf.at? place c'.world.autoscalers.shelf = some a') :
    GoesOn precision a.evictionTime a'.evictionTime := by
  have hunchanged : Shelf.at? place c.world.autoscalers.shelf = some a' →
      GoesOn precision a.evictionTime a'.evictionTime := by
    intro hsame
    rw [hat] at hsame
    cases hsame
    exact .refl precision _
  cases hstep with
  | tick | begin | readClock | note | putPod | removePod => exact hunchanged hat'
  | ask pass answers =>
    rcases answers.at?_cases hat' with hsame | ⟨b, held, rfl, rfl, there, current, htime⟩
    · exact hunchanged hsame
    · obtain ⟨r, hr, hle, -, -⟩ := h.stamp pass there current
      rw [hat] at there
      cases there
      rw [htime, hr]
      exact goesOn_of_notLater hle
  | @putAutoscaler b new same past =>
    rw [Held.store, Shelf.at?_put] at hat'
    split at hat'
    next hplace =>
      cases hat'
      subst hplace
      have heviction : a'.evictionTime = a.evictionTime :=
        congrArg Eviction.evictionTime (same a hat)
      rw [heviction]
      exact .refl precision _
    next => exact hunchanged hat'
  | removeAutoscaler place' =>
    rw [Held.discard, Shelf.at?_remove] at hat'
    split at hat'
    · cases hat'
    · exact hunchanged hat'

theorem Stays.reachable {place : Place} (h : Stays precision place c c')
    (hc : Reachable precision c) : Reachable precision c' := by
  induction h with
  | here => exact hc
  | on _ hstep _ ih => exact ih.step hstep

theorem Stays.there {place : Place} (h : Stays precision place c c')
    (hc : (Shelf.at? place c.world.autoscalers.shelf).isSome = true) :
    ∃ a, Shelf.at? place c'.world.autoscalers.shelf = some a := by
  cases h with
  | here => exact Option.isSome_iff_exists.mp hc
  | on _ _ there => exact Option.isSome_iff_exists.mp there

theorem Stays.goesOn {place : Place} (h : Stays precision place c c') (hc : Reachable precision c)
    {a : Autoscaler} (hat : Shelf.at? place c.world.autoscalers.shelf = some a) :
    ∀ {a' : Autoscaler}, Shelf.at? place c'.world.autoscalers.shelf = some a' →
      GoesOn precision a.evictionTime a'.evictionTime := by
  induction h with
  | here =>
    intro a' hat'
    rw [hat] at hat'
    cases hat'
    exact .refl precision _
  | on h hstep there ih =>
    intro a' hat'
    obtain ⟨b, hb⟩ := h.there (hat ▸ rfl)
    exact (ih hb).trans ((h.reachable hc).timely.goesOn hstep hb hat')

/-- The time of the last eviction that a server has of an autoscaler never goes back, as
long as the autoscaler is there: what is held later is not earlier, as far as the server
tells times apart. A server that takes in times in full tells all apart; of one that takes
them in by the second that is said as well if the first of the times is of a whole second,
as all are that were written since. And a pass whose write is accepted records, as the
server takes it in, a time at which it was running: no earlier than when it began, and no
later than when it ends, which is after the write. -/
theorem recorded_time_never_goes_back (hc : Reachable precision c) :
    (∀ place c' a a', Stays precision place c c' →
      Shelf.at? place c.world.autoscalers.shelf = some a →
      Shelf.at? place c'.world.autoscalers.shelf = some a' →
      NotLater (a.evictionTime.map precision.cut) (a'.evictionTime.map precision.cut) ∧
      (a.evictionTime.map precision.cut = a.evictionTime →
        NotLater a.evictionTime a'.evictionTime)) ∧
    ∀ i a next stored w', c.world.passes i = some (.ask (.updateAutoscaler a) next) →
      Receives precision c.world (.updateAutoscaler a) (.ok stored) w' →
      Shelf.at? (placeOf a) w'.autoscalers.shelf = some stored ∧
      ∃ r, stored.evictionTime = some (precision.cut r) ∧
        (c.began i).toNanos ≤ r.toNanos ∧
        ∀ c', Later precision c c' → r.toNanos ≤ c'.now.toNanos := by
  refine ⟨fun place c' a a' hstays hat hat' => ?_, fun i a next stored w' hpass hanswer => ?_⟩
  · have hgoes := hstays.goesOn hc hat hat'
    exact ⟨hgoes.cut, fun ha => (hgoes.exact ha).1⟩
  · cases hanswer with
    | other _ hcall => exact absurd rfl (hcall a)
    | @stored _ held version there current new =>
      obtain ⟨r, hr, -, hfrom, hto⟩ := hc.timely.stamp hpass there current
      refine ⟨?_, r, ?_, hfrom, fun c' hlater => Int.le_trans hto hlater.now_le⟩
      · have hplace : placeOf (withVersion (some version) (precision.taken a)) = placeOf a :=
          placeOf_taken precision a
        rw [Held.store, Shelf.at?_put, if_pos hplace]
      · show (precision.taken a).evictionTime = _
        rw [evictionTime_taken, hr, Option.map_some]

/-- A clock in the second 5, and an autoscaler whose last eviction was at `t`. -/
def datedAt (t : Instant) : Clocked :=
  let a : Autoscaler :=
    { metadata := { name := some "web", ns := some "prod", resourceVersion := some "1" }
      spec := { lastEviction := { podName := "web-1", evictionTime := some t } } }
  { world := { World.small with autoscalers := ⟨[a], [a]⟩ }
    now := ⟨5, 700000000⟩
    began := fun _ => ⟨0, 0⟩ }

theorem initial_datedAt {t : Instant} (ht : t.toNanos ≤ (⟨5, 700000000⟩ : Instant).toNanos) :
    (datedAt t).Initial where
  world :=
    { pods := World.initial_small.pods
      autoscalers := .initial (List.nodup_singleton _)
      passes := fun _ => rfl }
  past := by
    intro place a hat
    rw [List.mem_singleton.mp (Shelf.mem_of_at? hat)]
    exact ht

/-- A pass over the node begins there, reads the clock at `later` and records the eviction
of the other pod, on a server that takes in whole seconds. -/
theorem exists_write_datedAt {t later : Instant}
    (ht : t.toNanos ≤ (⟨5, 700000000⟩ : Instant).toNanos)
    (hlater : (⟨5, 700000000⟩ : Instant).toNanos ≤ later.toNanos) :
    ∃ (c c' : Clocked) (a stored : Autoscaler) (next : Call.Answer (.updateAutoscaler a) → _)
      (w' : World) (before : Autoscaler),
      Reachable .seconds c ∧ Stays .seconds ⟨some "prod", "web"⟩ c c' ∧
      c.world.passes 0 = some (.ask (.updateAutoscaler a) next) ∧
      Receives .seconds c.world (.updateAutoscaler a) (.ok stored) w' ∧
      Shelf.at? ⟨some "prod", "web"⟩ c.world.autoscalers.shelf = some before ∧
      Shelf.at? ⟨some "prod", "web"⟩ c'.world.autoscalers.shelf = some stored ∧
      before.evictionTime = some t ∧ stored.evictionTime = some later.wholeSeconds := by
  have hpods : ∀ pod ∈ (datedAt t).world.pods.shelf, pod ∈ (datedAt t).world.pods.ever :=
    fun _ h => h
  have hautoscalers : ∀ a ∈ (datedAt t).world.autoscalers.shelf,
      a ∈ (datedAt t).world.autoscalers.ever := fun _ h => h
  have hnew : ∀ a : Autoscaler, versionOf a = some "2" →
      (datedAt t).world.autoscalers.IsNew a := by
    intro a ha y hy _
    rw [List.mem_singleton.mp hy, ha]
    exact (by decide : some "1" ≠ some "2")
  have hnewPod : ∀ pod : Pod, versionOf pod = some "2" → (datedAt t).world.pods.IsNew pod := by
    intro pod hpod y hy _
    rw [List.mem_singleton.mp hy, hpod]
    decide
  have hread : ∀ {w w' : World} {call : Call} {answer : call.Answer}, w.Answers call answer w' →
      (∀ a, call ≠ .updateAutoscaler a) → Receives .seconds w call answer w' := Receives.other
  have h₁ := (@Reachable.initial .seconds _ (initial_datedAt ht)).step (.begin _ 0 {} "n1")
  have h₂ := h₁.step (.ask (i := 0) rfl (hread
    (.node "n1" (some { metadata := {}, unschedulable := some true })) (by simp)))
  have h₃ := (h₂.step (.note (i := 0) rfl)).step (.note (i := 0) rfl)
  have h₄ := h₃.step (.ask (i := 0) rfl (hread (.pods "n1" hpods) (by simp)))
  have h₅ := h₄.step (.ask (i := 0) rfl (hread (.autoscalers "prod" hautoscalers) (by simp)))
  have h₆ := h₅.step (.ask (i := 0) rfl (hread
    (.budget "prod" "web" (some { metadata := {}, selector := some {} })) (by simp)))
  have h₇ := (h₆.step (.note (i := 0) rfl)).step (.note (i := 0) rfl)
  have h₈ := h₇.step (.readClock (i := 0) rfl)
  have h₉ := h₈.step (.ask (i := 0) rfl (hread
    (@World.Answers.podStored _ _ _ _ "2" rfl rfl (Or.inl rfl) (hnewPod _ rfl)) (by simp)))
  have h₁₀ := (h₉.step (.tick _ hlater)).step (.readClock (i := 0) rfl)
  have hon : ∀ {c c' : Clocked}, Reachable .seconds c → Step .seconds c c' →
      (Shelf.at? ⟨some "prod", "web"⟩ c'.world.autoscalers.shelf).isSome = true →
      Stays .seconds ⟨some "prod", "web"⟩ c c' := fun _ hstep there => .on (.here _) hstep there
  have hstays := hon h₁₀
    (.ask (i := 0) rfl (@Receives.stored .seconds _ _ _ "2" rfl rfl (hnew _ rfl))) rfl
  exact ⟨_, _, _, _, _, _, _, h₁₀, hstays, rfl,
    @Receives.stored .seconds _ _ _ "2" rfl rfl (hnew _ rfl), rfl, rfl, rfl, rfl⟩

/-- An eviction of the whole second 3 is followed by one that the server has at the second
6, after the clock moved on while the pass was running. One in the middle of the second 5
is followed by one that was later in that second, and that the server has at its start: as
the server tells times apart, they are the same. -/
theorem recorded_time_never_goes_back_dated :
    (∃ (c c' : Clocked) (a stored : Autoscaler) (next : Call.Answer (.updateAutoscaler a) → _)
      (w' : World) (place : Place) (before after : Autoscaler),
      Reachable .seconds c ∧ Stays .seconds place c c' ∧
      Shelf.at? place c.world.autoscalers.shelf = some before ∧
      Shelf.at? place c'.world.autoscalers.shelf = some after ∧
      before.evictionTime = some ⟨3, 0⟩ ∧ after.evictionTime = some ⟨6, 0⟩ ∧
      NotLater before.evictionTime after.evictionTime ∧
      c.world.passes 0 = some (.ask (.updateAutoscaler a) next) ∧
      Receives .seconds c.world (.updateAutoscaler a) (.ok stored) w' ∧
      ∃ r, stored.evictionTime = some (Precision.seconds.cut r) ∧
        (c.began 0).toNanos ≤ r.toNanos ∧ r.toNanos ≤ c.now.toNanos) ∧
    ∃ (c c' : Clocked) (place : Place) (before after : Autoscaler),
      Reachable .seconds c ∧ Stays .seconds place c c' ∧
      Shelf.at? place c.world.autoscalers.shelf = some before ∧
      Shelf.at? place c'.world.autoscalers.shelf = some after ∧
      before.evictionTime = some ⟨5, 200000000⟩ ∧ after.evictionTime = some ⟨5, 0⟩ ∧
      NotLater (before.evictionTime.map Precision.seconds.cut)
        (after.evictionTime.map Precision.seconds.cut) := by
  constructor
  · obtain ⟨c, c', a, stored, next, w', before, hc, hstays, hpass, hanswer, hat, hat', hbefore,
      hafter⟩ := @exists_write_datedAt ⟨3, 0⟩ ⟨6, 200000000⟩ (by decide) (by decide)
    obtain ⟨hgoes, hstamps⟩ := recorded_time_never_goes_back hc
    obtain ⟨-, r, hr, hfrom, hto⟩ := hstamps 0 a next stored w' hpass hanswer
    exact ⟨c, c', a, stored, next, w', _, before, stored, hc, hstays, hat, hat', hbefore, hafter,
      (hgoes _ c' before stored hstays hat hat').2 (by rw [hbefore]; rfl), hpass, hanswer, r, hr,
      hfrom, hto _ (.here _)⟩
  · obtain ⟨c, c', -, stored, -, -, before, hc, hstays, -, -, hat, hat', hbefore, hafter⟩ :=
      @exists_write_datedAt ⟨5, 200000000⟩ ⟨5, 900000000⟩ (by decide) (by decide)
    exact ⟨c, c', _, before, stored, hc, hstays, hat, hat', hbefore, hafter,
      ((recorded_time_never_goes_back hc).1 _ c' before stored hstays hat hat').1⟩

/-- The time itself may go back within a second: a server that takes in whole seconds has
an eviction from the middle of a second, as another client has written it; a pass whose
clock reads a later time of the same second writes, and the server has its start. -/
theorem recorded_time_back_within_second :
    ∃ (c c' : Clocked) (place : Place) (before after : Autoscaler),
      Reachable .seconds c ∧ Stays .seconds place c c' ∧
      Shelf.at? place c.world.autoscalers.shelf = some before ∧
      Shelf.at? place c'.world.autoscalers.shelf = some after ∧
      before.evictionTime = some ⟨5, 200000000⟩ ∧ after.evictionTime = some ⟨5, 0⟩ ∧
      ¬ NotLater before.evictionTime after.evictionTime := by
  obtain ⟨c, c', -, stored, -, -, before, hc, hstays, -, -, hat, hat', hbefore, hafter⟩ :=
    @exists_write_datedAt ⟨5, 200000000⟩ ⟨5, 900000000⟩ (by decide) (by decide)
  refine ⟨c, c', _, before, stored, hc, hstays, hat, hat', hbefore, hafter, ?_⟩
  rw [hbefore, hafter]
  decide

end Clocked

end Store

end CordonWatch
