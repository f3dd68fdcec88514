import CordonWatch.Proofs.Split
import CordonWatch.Proofs.Table
import CordonWatch.Proofs.Watch.Cordons
import Mathlib.Data.List.Basic
import Mathlib.Data.List.Induction

/-!
# The flags that the cordon filter remembers

The filter keeps a table of flags and the names of a running list. What it has in
them is said here in terms of the history of events alone. A name is forgotten when
a node of that name is deleted, and when a list is complete that has not come to it
(`Forgets`); the flag that is remembered of it is the one that was shown last, if it
was not forgotten since (`Remembers`). Histories are taken apart at their end, one
lemma for each notion, and the filter does the same with its tables
(`lastSeen_handleAll_iff`).

So the filter passes exactly the nodes that are shown with another flag than the one
remembered, and a stream with errors between the events yields those nodes and the
errors (`passes_exactly_changed_flags`). Nothing is assumed of the history:
lists may break off, overlap with changes, or be completed without having begun.
-/

namespace CordonWatch.Watch

/-- The node that an event shows: one of a list, or one that was created or changed. -/
def Event.shown? : Event Node → Option Node
  | .initApply node | .apply node => some node
  | .init | .initDone | .delete _ => none

/-- The event shows a node of that name. -/
def Shows (name : String) (event : Event Node) : Prop :=
  ∃ node, event.shown? = some node ∧ node.name = name

/-- A list has begun and is not complete, and has not come to a node of that name
since it last began. -/
def Unlisted (history : List (Event Node)) (name : String) : Prop :=
  ∃ earlier since, history = earlier ++ .init :: since ∧ .init ∉ since ∧ .initDone ∉ since ∧
    ∀ node, .initApply node ∈ since → node.name ≠ name

/-- After that history the event makes a name forgotten. -/
def Forgets (history : List (Event Node)) (name : String) : Event Node → Prop
  | .delete node => node.name = name
  | .initDone => Unlisted history name
  | .init | .initApply _ | .apply _ => False

/-- The last event that showed a node of that name showed that flag, and no event
since has made the name forgotten. -/
def Remembers (history : List (Event Node)) (name : String) (flag : Bool) : Prop :=
  ∃ before event after node, history = before ++ event :: after ∧
    event.shown? = some node ∧ node.name = name ∧ node.isCordoned = flag ∧
    (∀ later ∈ after, ¬ Shows name later) ∧
    ∀ between later rest, after = between ++ later :: rest →
      ¬ Forgets (before ++ event :: between) name later

/-! ### Histories with one more event -/

/-- Only the beginning of a list makes names unlisted, and only its end or a node of
the name ends that. -/
theorem unlisted_concat (history : List (Event Node)) (event : Event Node) (name : String) :
    Unlisted (history ++ [event]) name ↔
      match event with
      | .init => True
      | .initDone => False
      | .initApply node => Unlisted history name ∧ node.name ≠ name
      | .apply _ | .delete _ => Unlisted history name := by
  have hsplit : Unlisted (history ++ [event]) name ↔ event = .init ∨
      Unlisted history name ∧ event ≠ .init ∧ event ≠ .initDone ∧
        ∀ node, event = .initApply node → node.name ≠ name := by
    unfold Unlisted
    simp only [concat_eq_append_cons]
    -- The last `init` is the event itself, or it stands in the history before.
    constructor
    · rintro ⟨earlier, since, ⟨-, -, h⟩ | ⟨rest, rfl, rfl⟩, hinit, hdone, hother⟩
      · exact Or.inl h.symm
      · simp only [List.mem_append, List.mem_singleton, not_or] at hinit hdone
        refine Or.inr ⟨⟨earlier, rest, rfl, hinit.1, hdone.1, fun node hnode => ?_⟩,
          Ne.symm hinit.2, Ne.symm hdone.2, fun node hnode => ?_⟩
        · exact hother node (List.mem_append_left _ hnode)
        · exact hother node (by simp [hnode])
    · rintro (rfl | ⟨⟨earlier, since, rfl, hinit, hdone, hother⟩, hinit', hdone', hother'⟩)
      · exact ⟨history, [], Or.inl ⟨rfl, rfl, rfl⟩, by simp⟩
      · refine ⟨earlier, since ++ [event], Or.inr ⟨since, rfl, rfl⟩, ?_, ?_, fun node hnode => ?_⟩
        · simp [hinit, Ne.symm hinit']
        · simp [hdone, Ne.symm hdone']
        · rcases List.mem_append.mp hnode with hnode | hnode
          · exact hother node hnode
          · exact hother' node (List.mem_singleton.mp hnode).symm
  rw [hsplit]
  cases event <;> simp

/-- One more event shows a flag, or leaves what is remembered unless it makes it forgotten. -/
theorem remembers_concat (history : List (Event Node)) (event : Event Node) (name : String)
    (flag : Bool) :
    Remembers (history ++ [event]) name flag ↔
      (∃ node, event.shown? = some node ∧ node.name = name ∧ node.isCordoned = flag) ∨
        ¬ Shows name event ∧ ¬ Forgets history name event ∧ Remembers history name flag := by
  constructor
  · rintro ⟨before, shown, after, node, hsplit, hshown, hname, hflag, hlast, hkept⟩
    rcases concat_eq_append_cons.mp hsplit with ⟨-, -, rfl⟩ | ⟨rest, rfl, rfl⟩
    · exact Or.inl ⟨node, hshown, hname, hflag⟩
    · obtain ⟨hrest, hevent⟩ := List.forall_mem_append.mp hlast
      refine Or.inr ⟨hevent event (List.mem_singleton_self _), hkept rest event [] rfl,
        before, shown, rest, node, rfl, hshown, hname, hflag, hrest, ?_⟩
      rintro between later rest' rfl
      exact hkept between later (rest' ++ [event]) (by simp)
  · rintro (⟨node, hshown, hname, hflag⟩ | ⟨hother, hforgets, before, shown, after, node, rfl,
      hshown, hname, hflag, hlast, hkept⟩)
    · refine ⟨history, event, [], node, rfl, hshown, hname, hflag,
        fun _ h => absurd h List.not_mem_nil, ?_⟩
      intro between later rest h
      cases between <;> cases h
    · refine ⟨before, shown, after ++ [event], node, by simp, hshown, hname, hflag, ?_, ?_⟩
      · exact List.forall_mem_append.mpr ⟨hlast, List.forall_mem_singleton.mpr hother⟩
      · intro between later rest h
        rcases concat_eq_append_cons.mp h with ⟨-, rfl, rfl⟩ | ⟨rest', -, rfl⟩
        · exact hforgets
        · exact hkept between later rest' rfl

/-! ### What the filter has in its tables -/

namespace CordonFilter

theorem handleAll_concat (f : CordonFilter) (history : List (Event Node)) (event : Event Node) :
    (f.handleAll (history ++ [event])).1 = ((f.handleAll history).1.handle event).1 := by
  induction history generalizing f with
  | nil => rfl
  | cons first rest ih => exact ih (f.handle first).1

/-- The names that a running list has not come to are those that the filter has not noted. -/
theorem relisted_handleAll_iff (history : List (Event Node)) (name : String) :
    (∃ names, (handleAll {} history).1.relisted = some names ∧ names.contains name = false) ↔
      Unlisted history name := by
  induction history using List.reverseRecOn with
  | nil =>
    constructor
    · rintro ⟨names, hnames, -⟩
      cases hnames
    · rintro ⟨earlier, since, h, -⟩
      cases earlier <;> cases h
  | append_singleton history event ih =>
    rw [handleAll_concat, unlisted_concat]
    cases event with
    | init => exact ⟨fun _ => trivial, fun _ => ⟨Table.empty, rfl, rfl⟩⟩
    | initDone =>
      refine ⟨?_, False.elim⟩
      rintro ⟨names, hnames, -⟩
      rw [handle] at hnames
      split at hnames
      next => cases hnames
      next hnone => rw [hnone] at hnames; cases hnames
    | initApply node =>
      dsimp only
      rw [← ih]
      show (∃ names, (handleAll {} history).1.relisted.map (·.insert node.name ()) = some names ∧ _)
        ↔ _
      constructor
      · rintro ⟨_, hsome, hmissing⟩
        obtain ⟨names, hnames, rfl⟩ := Option.map_eq_some_iff.mp hsome
        rw [Table.contains, Table.find?_insert] at hmissing
        split at hmissing
        next => cases hmissing
        next hne => exact ⟨⟨names, hnames, hmissing⟩, hne⟩
      · rintro ⟨⟨names, hnames, hmissing⟩, hne⟩
        refine ⟨names.insert node.name (), by rw [hnames]; rfl, ?_⟩
        rw [Table.contains, Table.find?_insert, if_neg hne]
        exact hmissing
    | apply node => exact ih
    | delete node => exact ih

/-- The filter has a flag of a name exactly if the flag is the one remembered. -/
theorem lastSeen_handleAll_iff (history : List (Event Node)) (name : String) (flag : Bool) :
    (handleAll {} history).1.lastSeen.find? name = some flag ↔ Remembers history name flag := by
  induction history using List.reverseRecOn with
  | nil =>
    constructor
    · intro h
      cases h
    · rintro ⟨before, shown, after, node, h, -⟩
      cases before <;> cases h
  | append_singleton history event ih =>
    rw [handleAll_concat, remembers_concat, ← ih]
    -- What is shown is remembered, whether it comes in a list or not.
    have hobserve : ∀ node : Node,
        ((handleAll {} history).1.lastSeen.insert node.name node.isCordoned).find? name
            = some flag ↔
          (∃ other, some node = some other ∧ other.name = name ∧ other.isCordoned = flag) ∨
            ¬ (∃ other, some node = some other ∧ other.name = name) ∧ ¬ False ∧
              (handleAll {} history).1.lastSeen.find? name = some flag := by
      intro node
      rw [Table.find?_insert]
      by_cases hname : node.name = name <;> simp [hname]
    cases event with
    | init => simp [handle, Shows, Event.shown?, Forgets]
    | initApply node => exact hobserve node
    | apply node => exact hobserve node
    | initDone =>
      have hunlisted := relisted_handleAll_iff history name
      rw [handle]
      cases hnames : (handleAll {} history).1.relisted with
      | none =>
        rw [hnames] at hunlisted
        have hlisted : ¬ Unlisted history name := fun h => by
          obtain ⟨names, hsome, -⟩ := hunlisted.mpr h
          cases hsome
        simp [Shows, Event.shown?, Forgets, hlisted]
      | some names =>
        have hmissing : Unlisted history name ↔ names.contains name = false := by
          rw [← hunlisted, hnames]
          simp
        dsimp only
        rw [Table.find?_filter, Option.filter_eq_some_iff]
        simp [Shows, Event.shown?, Forgets, hmissing, and_comm]
    | delete node =>
      rw [handle, Table.find?_erase]
      by_cases hname : name = node.name
      · simp [Shows, Event.shown?, Forgets, hname]
      · simp [Shows, Event.shown?, Forgets, hname, Ne.symm hname]

/-- A node is passed if the event shows it, and not with the flag that the filter has of it. -/
theorem handle_eq_some_iff (f : CordonFilter) (event : Event Node) (node : Node) :
    (f.handle event).2 = some node ↔
      event.shown? = some node ∧ f.lastSeen.find? node.name ≠ some node.isCordoned := by
  have hobserve : ∀ (g : CordonFilter) (shown : Node), (g.observe shown).2 = some node ↔
      shown = node ∧ g.lastSeen.find? node.name ≠ some node.isCordoned := by
    intro g shown
    unfold observe isTransition
    by_cases hshown : shown = node
    · subst hshown
      simp
    · simp [hshown]
  cases event with
  | init => simp [handle, Event.shown?]
  | initApply shown =>
    rw [handle, hobserve]
    simp [Event.shown?]
  | initDone =>
    rw [handle]
    split <;> simp [Event.shown?]
  | apply shown =>
    rw [handle, hobserve]
    simp [Event.shown?]
  | delete shown => simp [handle, Event.shown?]

/-! ### Streams with errors -/

/-- The events among some items. -/
def eventsOf {ε : Type} (items : List (Except ε (Event Node))) : List (Event Node) :=
  items.filterMap Except.toOption

/-- What a stream yields for an item that comes after others: an error as it is, and for
an event the node that is passed by the filter that has taken in the events before. -/
def yieldAfter {ε : Type} (f : CordonFilter) (before : List (Except ε (Event Node))) :
    Except ε (Event Node) → Option (Except ε Node)
  | .error e => some (.error e)
  | .ok event => ((f.handleAll (eventsOf before)).1.handle event).2.map .ok

/-- Errors leave the filter as it is. -/
theorem foldl_hear {ε : Type} (f : CordonFilter) (items : List (Except ε (Event Node))) :
    items.foldl hear f = (f.handleAll (eventsOf items)).1 := by
  induction items generalizing f with
  | nil => rfl
  | cons item rest ih =>
    cases item with
    | error e => exact ih f
    | ok event => exact ih (f.handle event).1

/-- A stream yields item by item, in order. -/
theorem transitions_eq_filterMap {ε : Type} (f : CordonFilter)
    (items : List (Except ε (Event Node))) :
    f.transitions items = (List.range items.length).filterMap fun i =>
      items[i]?.bind (f.yieldAfter (items.take i)) := by
  induction items using List.reverseRecOn with
  | nil => rfl
  | append_singleton items item ih =>
    have hlast : (f.handleAll (eventsOf items)).1.transitions [item]
        = (f.yieldAfter items item).toList := by
      cases item with
      | error e => rfl
      | ok event =>
        rw [transitions, yieldAfter]
        cases hhandle : (f.handleAll (eventsOf items)).1.handle event with
        | mk f' passed => cases passed <;> rfl
    have hbefore : ∀ i ∈ List.range items.length,
        (items ++ [item])[i]?.bind (f.yieldAfter ((items ++ [item]).take i))
          = items[i]?.bind (f.yieldAfter (items.take i)) := by
      intro i hi
      have hi' : i < items.length := List.mem_range.mp hi
      rw [List.getElem?_append_left hi', List.take_append_of_le_length (Nat.le_of_lt hi')]
    rw [transitions_append, foldl_hear, hlast, ih, List.length_append, List.length_singleton,
      List.range_succ, List.filterMap_append, List.filterMap_congr hbefore]
    simp only [List.filterMap_cons, List.filterMap_nil, List.getElem?_concat_length,
      Option.bind_some, List.take_left']
    cases f.yieldAfter items item <;> rfl

/-- The filter passes exactly the nodes that are shown with a flag that is not the one
remembered of their names, if one is, and passes them as they are shown. A stream with
errors yields the nodes that are passed without them, and the errors, each in its place. -/
theorem passes_exactly_changed_flags :
    (∀ (history : List (Event Node)) (event : Event Node) (node : Node),
      ((handleAll {} history).1.handle event).2 = some node ↔
        event.shown? = some node ∧
          ∀ flag, Remembers history node.name flag → flag ≠ node.isCordoned) ∧
    ∀ {ε : Type} (items : List (Except ε (Event Node))),
      transitions {} items = (List.range items.length).filterMap fun i =>
        items[i]?.bind (yieldAfter {} (items.take i)) := by
  refine ⟨fun history event node => ?_, fun items => transitions_eq_filterMap {} items⟩
  rw [handle_eq_some_iff]
  refine and_congr_right fun _ => ?_
  constructor
  · intro hnew flag hflag he
    exact hnew (he ▸ (lastSeen_handleAll_iff history node.name flag).mpr hflag)
  · intro hnew hflag
    exact hnew _ ((lastSeen_handleAll_iff history node.name _).mp hflag) rfl

end CordonFilter

end CordonWatch.Watch
