import CordonWatch.Cluster.Link
import CordonWatch.Proofs.Store.Dialogue
import CordonWatch.Watch.CordonFilter

/-!
# Cordons that readers of the node cache see

Each event of the watch of nodes goes into the cache of nodes, and then through
the filter that passes the nodes that have to be looked at. The two agree
whenever a list is complete: the filter remembers of each node the flag that the
cache has (`Agrees`). While a list runs they do not. The filter takes an object
of the list as news at once, and the cache shows it when the list is complete.

So a pass over a node that the filter has passed need not see what the filter
saw. `seesCordoned_iff` says when it does, for a node whose cordon the filter has
passed on for the last time: if it was passed when it changed, or the list in
which it was passed has been completed, or the cache had it cordoned before. A
pass acts on a cordon exactly if it sees it (`asks_podsOnNode_iff`). At the end
stands a history in which none of that holds: a node is cordoned between two
lists, and a pass while the second one runs does nothing.
-/

namespace CordonWatch.Watch

variable {ε : Type}

/-! ### What a watch tells -/

/-- How far a watch is with its lists. -/
inductive Phase where
  /-- No list was begun yet, or the last one broke off. -/
  | unlisted
  /-- A list runs. -/
  | listing
  /-- The last list is complete. -/
  | following
  deriving DecidableEq

/-- The phase of a watch after one more item, if the watch can tell it. An error breaks
a list off. -/
def Phase.next? : Phase → Except ε (Event Node) → Option Phase
  | _, .ok .init | .listing, .ok (.initApply _) => some .listing
  | .listing, .ok .initDone | .following, .ok (.apply _) | .following, .ok (.delete _) =>
    some .following
  | .listing, .error _ => some .unlisted
  | phase, .error _ => some phase
  | .unlisted, .ok (.initApply _) | .unlisted, .ok .initDone | .unlisted, .ok (.apply _)
  | .unlisted, .ok (.delete _) | .listing, .ok (.apply _) | .listing, .ok (.delete _)
  | .following, .ok (.initApply _) | .following, .ok .initDone => none

/-- The phase after a sequence of items, if the watch can tell it. -/
def Phase.after? : Phase → List (Except ε (Event Node)) → Option Phase
  | phase, [] => some phase
  | phase, item :: rest => (phase.next? item).bind (after? · rest)

theorem Phase.after?_append (phase : Phase) (items rest : List (Except ε (Event Node))) :
    phase.after? (items ++ rest) = (phase.after? items).bind (·.after? rest) := by
  induction items generalizing phase with
  | nil => rfl
  | cons item items ih =>
    rw [List.cons_append, after?, after?]
    cases phase.next? item with
    | none => rfl
    | some phase' => exact ih phase'

/-- The cache of nodes after an item. -/
def Cache.hear (c : Cache Node) : Except ε (Event Node) → Cache Node
  | .ok event => c.apply event
  | .error _ => c

/-- The filter after an item. -/
def CordonFilter.hear (f : CordonFilter) : Except ε (Event Node) → CordonFilter
  | .ok event => (f.handle event).1
  | .error _ => f

/-- The cache of nodes after what a watch has told. -/
def Cache.told (items : List (Except ε (Event Node))) : Cache Node := items.foldl hear {}

/-- The filter after what a watch has told. -/
def CordonFilter.told (items : List (Except ε (Event Node))) : CordonFilter := items.foldl hear {}

theorem Cache.told_append (items rest : List (Except ε (Event Node))) :
    told (items ++ rest) = rest.foldl hear (told items) :=
  List.foldl_append

theorem CordonFilter.told_append (items rest : List (Except ε (Event Node))) :
    told (items ++ rest) = rest.foldl hear (told items) :=
  List.foldl_append

/-- What a filter yields for one item and then for the rest. -/
theorem CordonFilter.transitions_cons (f : CordonFilter) (item : Except ε (Event Node))
    (rest : List (Except ε (Event Node))) :
    f.transitions (item :: rest) = f.transitions [item] ++ (f.hear item).transitions rest := by
  cases item with
  | error e => rfl
  | ok event =>
    rw [transitions, transitions, hear]
    obtain ⟨f', passed⟩ := f.handle event
    cases passed with
    | none => rfl
    | some node => rfl

theorem CordonFilter.transitions_append (f : CordonFilter)
    (items rest : List (Except ε (Event Node))) :
    f.transitions (items ++ rest)
      = f.transitions items ++ (items.foldl hear f).transitions rest := by
  induction items generalizing f with
  | nil => rfl
  | cons item items ih =>
    rw [List.cons_append, transitions_cons, ih, transitions_cons f item items, List.append_assoc]
    rfl

/-- What the filter yields after what it was told. -/
theorem CordonFilter.transitions_told (items rest : List (Except ε (Event Node))) :
    transitions {} (items ++ rest) = transitions {} items ++ (told items).transitions rest :=
  transitions_append ..

/-! ### The cache and the filter side by side -/

/-- The filter remembers what the cache shows, or is collecting. -/
def Agrees (c : Cache Node) (f : CordonFilter) : Phase → Prop
  | .unlisted => True
  | .listing => ∃ names, f.relisted = some names ∧ ∀ name,
      names.contains name = (c.listed.find? ⟨none, name⟩).isSome ∧
      ∀ node, c.listed.find? ⟨none, name⟩ = some node →
        f.lastSeen.find? name = some node.isCordoned
  | .following => ∀ name,
      f.lastSeen.find? name = (c.live.find? ⟨none, name⟩).map Node.isCordoned

/-- The nodes that an item tells of stand in no namespace. -/
def Unscoped (item : Except ε (Event Node)) : Prop :=
  ∀ event node, item = .ok event → event.object? = some node → node.metadata.ns = none

theorem placeOf_eq {node : Node} (h : node.metadata.ns = none) : placeOf node = ⟨none, node.name⟩ :=
  Place.ext h rfl

/-- A list takes an object up: the filter its name and its flag, the cache the object. -/
theorem Agrees.initApply {c : Cache Node} {f : CordonFilter} {node : Node} (h : Agrees c f .listing)
    (hnode : node.metadata.ns = none) :
    Agrees (c.apply (.initApply node)) (f.handle (.initApply node)).1 .listing := by
  obtain ⟨names, hnames, hlisted⟩ := h
  refine ⟨names.insert node.name (), ?_, fun name => ?_⟩
  · show f.relisted.map (·.insert node.name ()) = some (names.insert node.name ())
    rw [hnames]
    rfl
  show _ = ((c.listed.insert (placeOf node) node).find? _).isSome ∧
    ∀ other, (c.listed.insert (placeOf node) node).find? _ = some other →
      (f.lastSeen.insert node.name node.isCordoned).find? name = _
  rw [placeOf_eq hnode, Table.contains, Table.find?_insert, Table.find?_insert, Table.find?_insert]
  by_cases hname : node.name = name
  · rw [if_pos hname, if_pos hname, if_pos (by rw [hname])]
    exact ⟨rfl, fun other hother => by rw [Option.some.inj hother]⟩
  · have hne : ¬(⟨none, node.name⟩ : Place) = ⟨none, name⟩ :=
      fun he => hname (congrArg Place.name he)
    rw [if_neg hname, if_neg hname, if_neg hne]
    exact hlisted name

/-- When a list is complete, the filter forgets the nodes that the cache drops. -/
theorem Agrees.initDone {c : Cache Node} {f : CordonFilter} (h : Agrees c f .listing) :
    Agrees (c.apply .initDone) (f.handle .initDone).1 .following := by
  obtain ⟨names, hnames, hlisted⟩ := h
  intro name
  show ((f.handle .initDone).1.lastSeen).find? name = (c.listed.find? _).map _
  rw [CordonFilter.handle, hnames]
  show (f.lastSeen.filter _).find? name = _
  obtain ⟨hthere, hflag⟩ := hlisted name
  rw [Table.find?_filter]
  cases hfound : c.listed.find? ⟨none, name⟩ with
  | none =>
    rw [hfound] at hthere
    cases f.lastSeen.find? name with
    | none => rfl
    | some flag => exact Option.filter_some_neg hthere
  | some node =>
    rw [hfound] at hthere
    rw [hflag node hfound]
    exact Option.filter_some_pos hthere

theorem Agrees.apply {c : Cache Node} {f : CordonFilter} {node : Node} (h : Agrees c f .following)
    (hnode : node.metadata.ns = none) :
    Agrees (c.apply (.apply node)) (f.handle (.apply node)).1 .following := by
  intro name
  show (f.lastSeen.insert node.name node.isCordoned).find? name
    = ((c.live.insert (placeOf node) node).find? _).map _
  rw [placeOf_eq hnode, Table.find?_insert, Table.find?_insert]
  by_cases hname : node.name = name
  · rw [if_pos hname, if_pos (by rw [hname])]
    rfl
  · rw [if_neg hname, if_neg fun he => hname (congrArg Place.name he)]
    exact h name

theorem Agrees.delete {c : Cache Node} {f : CordonFilter} {node : Node} (h : Agrees c f .following)
    (hnode : node.metadata.ns = none) :
    Agrees (c.apply (.delete node)) (f.handle (.delete node)).1 .following := by
  intro name
  show (f.lastSeen.erase node.name).find? name = ((c.live.erase (placeOf node)).find? _).map _
  rw [placeOf_eq hnode, Table.find?_erase, Table.find?_erase]
  by_cases hname : name = node.name
  · rw [if_pos hname, if_pos (by rw [hname])]
    rfl
  · rw [if_neg hname, if_neg fun he => hname (congrArg Place.name he)]
    exact h name

/-- The filter and the cache agree after each item that the watch can tell. -/
theorem Agrees.next {c : Cache Node} {f : CordonFilter} {phase phase' : Phase}
    {item : Except ε (Event Node)} (h : Agrees c f phase) (hnext : phase.next? item = some phase')
    (hitem : Unscoped item) : Agrees (c.hear item) (f.hear item) phase' := by
  cases item with
  | error e =>
    cases phase with
    | unlisted | listing =>
      cases hnext
      trivial
    | following =>
      cases hnext
      exact h
  | ok event =>
    cases event with
    | init =>
      have hphase : phase' = .listing := by cases phase <;> exact (Option.some.inj hnext).symm
      rw [hphase]
      exact ⟨Table.empty, rfl, fun name => ⟨rfl, fun node hnode => nomatch hnode⟩⟩
    | initApply node =>
      cases phase with
      | unlisted | following => cases hnext
      | listing =>
        cases hnext
        exact h.initApply (hitem _ node rfl rfl)
    | initDone =>
      cases phase with
      | unlisted | following => cases hnext
      | listing =>
        cases hnext
        exact h.initDone
    | apply node =>
      cases phase with
      | unlisted | listing => cases hnext
      | following =>
        cases hnext
        exact h.apply (hitem _ node rfl rfl)
    | delete node =>
      cases phase with
      | unlisted | listing => cases hnext
      | following =>
        cases hnext
        exact h.delete (hitem _ node rfl rfl)

/-- The filter and the cache after what a watch has told. -/
theorem agrees_after {items : List (Except ε (Event Node))} {phase : Phase}
    (hphase : Phase.unlisted.after? items = some phase) (hitems : ∀ item ∈ items, Unscoped item) :
    Agrees (Cache.told items) (CordonFilter.told items) phase := by
  have hrun : ∀ (items : List (Except ε (Event Node))) {c f} {phase phase' : Phase},
      Agrees c f phase → phase.after? items = some phase' → (∀ item ∈ items, Unscoped item) →
      Agrees (items.foldl Cache.hear c) (items.foldl CordonFilter.hear f) phase' := by
    intro items
    induction items with
    | nil =>
      intro c f phase phase' h hphase _
      rw [← Option.some.inj hphase]
      exact h
    | cons item rest ih =>
      intro c f phase phase' h hphase hitems
      obtain ⟨hitem, hrest⟩ := List.forall_mem_cons.mp hitems
      obtain ⟨next, hnext, hafter⟩ := Option.bind_eq_some_iff.mp hphase
      exact ih (h.next hnext hitem) hafter hrest
  exact hrun items (show Agrees {} {} .unlisted from trivial) hphase hitems

/-! ### What the filter remembers of a node that it does not pass -/

/-- The filter yields no node of that name for those items. -/
def Silent (f : CordonFilter) (name : String) (items : List (Except ε (Event Node))) : Prop :=
  ∀ node, .ok node ∈ f.transitions items → node.name ≠ name

theorem Silent.of_append {f : CordonFilter} {name : String}
    {items rest : List (Except ε (Event Node))} (h : Silent f name (items ++ rest)) :
    Silent f name items ∧ Silent (items.foldl CordonFilter.hear f) name rest := by
  unfold Silent at h ⊢
  rw [f.transitions_append] at h
  exact ⟨fun node hnode => h node (List.mem_append_left _ hnode),
    fun node hnode => h node (List.mem_append_right _ hnode)⟩

/-- A node that is not passed had the flag that is remembered of it. -/
theorem CordonFilter.lastSeen_of_observe {f : CordonFilter} {node : Node} {name : String}
    {flag : Bool} (hsilent : ∀ passed, (f.observe node).2 = some passed → passed.name ≠ name)
    (hflag : (f.observe node).1.lastSeen.find? name = some flag) :
    f.lastSeen.find? name = some flag := by
  rw [show (f.observe node).1.lastSeen = f.lastSeen.insert node.name node.isCordoned from rfl,
    Table.find?_insert] at hflag
  split at hflag
  next hname =>
    by_cases hnews : isTransition (f.lastSeen.find? node.name) node.isCordoned = true
    · exact absurd hname (hsilent node (if_pos hnews))
    · rw [isTransition, hname] at hnews
      rw [← hflag]
      simpa using hnews
  next => exact hflag

/-- A flag that is remembered of a node was remembered before the event, if the
filter has not passed the node for it. -/
theorem CordonFilter.lastSeen_of_handle {f : CordonFilter} {event : Event Node} {name : String}
    {flag : Bool} (hsilent : ∀ passed, (f.handle event).2 = some passed → passed.name ≠ name)
    (hflag : (f.handle event).1.lastSeen.find? name = some flag) :
    f.lastSeen.find? name = some flag := by
  cases event with
  | init => exact hflag
  | initApply node => exact lastSeen_of_observe (f := { f with relisted := _ }) hsilent hflag
  | apply node => exact lastSeen_of_observe hsilent hflag
  | initDone =>
    rw [handle] at hflag
    split at hflag
    · rw [show _ = (f.lastSeen.find? name).filter _ from Table.find?_filter ..] at hflag
      exact (Option.filter_eq_some_iff.mp hflag).1
    · exact hflag
  | delete node =>
    rw [handle, Table.find?_erase] at hflag
    split at hflag
    · cases hflag
    · exact hflag

theorem Silent.lastSeen {f : CordonFilter} {name : String} {item : Except ε (Event Node)}
    {flag : Bool} (h : Silent f name [item])
    (hflag : (f.hear item).lastSeen.find? name = some flag) :
    f.lastSeen.find? name = some flag := by
  cases item with
  | error e => exact hflag
  | ok event =>
    refine CordonFilter.lastSeen_of_handle (fun passed hpassed => h passed ?_) hflag
    rw [CordonFilter.transitions]
    cases hhandle : f.handle event with
    | mk f' passed' =>
      rw [hhandle] at hpassed
      obtain rfl : passed' = some passed := hpassed
      exact List.mem_cons_self ..

theorem Silent.lastSeen_all {f : CordonFilter} {name : String}
    {items : List (Except ε (Event Node))} {flag : Bool} (h : Silent f name items)
    (hflag : (items.foldl CordonFilter.hear f).lastSeen.find? name = some flag) :
    f.lastSeen.find? name = some flag := by
  induction items generalizing f with
  | nil => exact hflag
  | cons item rest ih =>
    obtain ⟨hitem, hrest⟩ := Silent.of_append (show Silent f name ([item] ++ rest) from h)
    exact hitem.lastSeen (ih hrest hflag)

/-! ### What readers of the cache see -/

/-- Who reads a node from the cache, after a watch has told so much, sees it cordoned. -/
def SeesCordoned (items : List (Except ε (Event Node))) (name : String) : Prop :=
  ∃ node, ({ nodes := Cache.told items } : Cluster.Caches).node? name = some node ∧
    node.isCordoned = true

theorem seesCordoned_iff_live {items : List (Except ε (Event Node))} {name : String} :
    SeesCordoned items name ↔
      ((Cache.told items).live.find? ⟨none, name⟩).map Node.isCordoned = some true := by
  have hnode : ({ nodes := Cache.told items } : Cluster.Caches).node? name
      = (Cache.told items).live.find? ⟨none, name⟩ := by
    unfold Cluster.Caches.node? Cache.find?
    cases (Cache.told items).live.find? ⟨none, name⟩ <;> rfl
  unfold SeesCordoned
  rw [hnode, Option.map_eq_some_iff]

section

variable {items : List (Except ε (Event Node))} {name : String} {phase phase' : Phase}

/-- While the watch follows, readers see what the filter remembers. -/
theorem seesCordoned_of_following (hphase : Phase.unlisted.after? items = some .following)
    (hitems : ∀ item ∈ items, Unscoped item)
    (hlast : (CordonFilter.told items).lastSeen.find? name = some true) :
    SeesCordoned items name :=
  seesCordoned_iff_live.mpr ((agrees_after hphase hitems name).symm.trans hlast)

/-- Of a node that the filter remembers as cordoned, readers see as much after an
item as before, unless it completes a list. -/
theorem seesCordoned_concat {item : Except ε (Event Node)}
    (hphase : Phase.unlisted.after? items = some phase) (hnext : phase.next? item = some phase')
    (hitems : ∀ x ∈ items ++ [item], Unscoped x)
    (hlast : (CordonFilter.told items).lastSeen.find? name = some true)
    (hlast' : (CordonFilter.told (items ++ [item])).lastSeen.find? name = some true) :
    SeesCordoned (items ++ [item]) name ↔ item = .ok .initDone ∨ SeesCordoned items name := by
  have hphase' : Phase.unlisted.after? (items ++ [item]) = some phase' := by
    rw [Phase.after?_append, hphase, Option.bind_some, Phase.after?, hnext]
    rfl
  -- Where the cache shows what it showed before, so do its readers.
  have hidle : (Cache.told (items ++ [item])).live = (Cache.told items).live →
      item ≠ .ok .initDone →
      (SeesCordoned (items ++ [item]) name ↔ item = .ok .initDone ∨ SeesCordoned items name) := by
    intro hlive hitem
    rw [seesCordoned_iff_live, seesCordoned_iff_live, hlive]
    exact ⟨Or.inr, fun h => h.resolve_left hitem⟩
  have hfollowing : phase' = .following → item = .ok .initDone ∨ phase = .following →
      (SeesCordoned (items ++ [item]) name ↔ item = .ok .initDone ∨ SeesCordoned items name) := by
    rintro rfl hbefore
    refine ⟨fun _ => hbefore.imp_right ?_, fun _ => seesCordoned_of_following hphase' hitems hlast'⟩
    rintro rfl
    exact seesCordoned_of_following hphase (fun x hx => hitems x (List.mem_append_left _ hx)) hlast
  rw [Cache.told_append] at hidle
  cases item with
  | error e => exact hidle rfl (fun h => nomatch h)
  | ok event =>
    cases event with
    | init => exact hidle rfl (fun h => nomatch h)
    | initApply node => exact hidle rfl (fun h => nomatch h)
    | initDone =>
      cases phase with
      | unlisted | following => cases hnext
      | listing => exact hfollowing (Option.some.inj hnext).symm (Or.inl rfl)
    | apply node =>
      cases phase with
      | unlisted | listing => cases hnext
      | following => exact hfollowing (Option.some.inj hnext).symm (Or.inr rfl)
    | delete node =>
      cases phase with
      | unlisted | listing => cases hnext
      | following => exact hfollowing (Option.some.inj hnext).symm (Or.inr rfl)

/-- While the filter passes a node no more, and remembers it as cordoned in the
end, readers see its cordon once a list is complete, or else if they saw it before. -/
theorem seesCordoned_append {rest : List (Except ε (Event Node))}
    (hphase : Phase.unlisted.after? items = some phase) (hrest : phase.after? rest = some phase')
    (hitems : ∀ item ∈ items ++ rest, Unscoped item)
    (hsilent : Silent (CordonFilter.told items) name rest)
    (hlast : (CordonFilter.told (items ++ rest)).lastSeen.find? name = some true) :
    SeesCordoned (items ++ rest) name ↔ .ok .initDone ∈ rest ∨ SeesCordoned items name := by
  induction rest generalizing items phase with
  | nil =>
    rw [List.append_nil]
    exact ⟨Or.inr, fun h => h.resolve_left List.not_mem_nil⟩
  | cons item rest ih =>
    obtain ⟨next, hnext, hafter⟩ := Option.bind_eq_some_iff.mp hrest
    obtain ⟨hitem, htail⟩ := Silent.of_append (show Silent _ name ([item] ++ rest) from hsilent)
    rw [List.append_cons] at hitems hlast ⊢
    have hphase' : Phase.unlisted.after? (items ++ [item]) = some next := by
      rw [Phase.after?_append, hphase, Option.bind_some, Phase.after?, hnext]
      rfl
    have htail' : Silent (CordonFilter.told (items ++ [item])) name rest := by
      rw [CordonFilter.told_append]
      exact htail
    have hlast' : (CordonFilter.told (items ++ [item])).lastSeen.find? name = some true := by
      refine htail'.lastSeen_all ?_
      rw [← CordonFilter.told_append]
      exact hlast
    have hlast₀ : (CordonFilter.told items).lastSeen.find? name = some true := by
      refine hitem.lastSeen ?_
      rw [CordonFilter.told_append] at hlast'
      exact hlast'
    have hstep := seesCordoned_concat hphase hnext
      (fun x hx => hitems x (List.mem_append_left _ hx)) hlast₀ hlast'
    rw [ih hphase' hafter hitems htail' hlast, hstep, List.mem_cons, @eq_comm _ item, ← or_assoc,
      @or_comm (_ ∈ rest)]

/-- Of a node that is passed for an event, and is cordoned by it, readers see the cordon
if it was changed, or else if they saw it before. -/
theorem seesCordoned_passed {event : Event Node}
    (hphase : Phase.unlisted.after? items = some phase)
    (hnext : phase.next? (.ok event : Except ε (Event Node)) = some phase')
    (hitems : ∀ item ∈ items ++ [.ok event], Unscoped item)
    (hpassed : ∃ node : Node, CordonFilter.transitions {} (items ++ [.ok event])
      = CordonFilter.transitions {} items ++ [.ok node])
    (hlast : (CordonFilter.told (items ++ [.ok event])).lastSeen.find? name = some true) :
    SeesCordoned (items ++ [.ok event]) name ↔
      (∃ node, event = .apply node) ∨ SeesCordoned items name := by
  have hyield : (CordonFilter.told items).transitions [(.ok event : Except ε _)] ≠ [] := by
    obtain ⟨node, hpassed⟩ := hpassed
    rw [CordonFilter.transitions_told] at hpassed
    rw [List.append_cancel_left hpassed]
    exact List.cons_ne_nil _ _
  cases event with
  | init => exact absurd rfl hyield
  | delete node => exact absurd rfl hyield
  | initDone =>
    refine absurd ?_ hyield
    rw [CordonFilter.transitions, CordonFilter.handle]
    cases (CordonFilter.told items).relisted <;> rfl
  | initApply node =>
    -- The cache keeps the object apart until the list is complete.
    rw [seesCordoned_iff_live, seesCordoned_iff_live, Cache.told_append]
    exact ⟨Or.inr, fun h => h.resolve_left fun ⟨_, he⟩ => nomatch he⟩
  | apply node =>
    have hphase' : Phase.unlisted.after? (items ++ [.ok (.apply node)]) = some .following := by
      cases phase with
      | unlisted | listing => cases hnext
      | following =>
        rw [Phase.after?_append, hphase]
        rfl
    exact ⟨fun _ => Or.inl ⟨node, rfl⟩, fun _ => seesCordoned_of_following hphase' hitems hlast⟩

end

/-- A history that a watch of nodes can tell, and in which the last list is complete. -/
structure Complete (history : List (Except ε (Event Node))) : Prop where
  following : Phase.unlisted.after? history = some .following
  unscoped : ∀ item ∈ history, Unscoped item

/-- The last time that the filter passes a node of that name is for the event
between the items before and after. -/
structure LastPassed (name : String) (before : List (Except ε (Event Node))) (event : Event Node)
    (after : List (Except ε (Event Node))) : Prop where
  passed : ∃ node, node.name = name ∧ CordonFilter.transitions {} (before ++ [.ok event])
    = CordonFilter.transitions {} before ++ [.ok node]
  last : ∃ rest, CordonFilter.transitions {} (before ++ .ok event :: after)
    = CordonFilter.transitions {} (before ++ [.ok event]) ++ rest ∧
      ∀ node, .ok node ∈ rest → node.name ≠ name

/-- When a watch is followed and the cache has a node as cordoned in the end, then a
pass over the node after it was passed for the last time sees its cordon if the
node was passed when it changed, or the list in which it was passed has been
completed by then, or the cache had it as cordoned before; and not otherwise. -/
theorem seesCordoned_iff {name : String} {before between after : List (Except ε (Event Node))}
    {event : Event Node} (hhistory : Complete (before ++ .ok event :: (between ++ after)))
    (hlast : LastPassed name before event (between ++ after))
    (hcordoned : SeesCordoned (before ++ .ok event :: (between ++ after)) name) :
    SeesCordoned (before ++ .ok event :: between) name ↔
      (∃ node, event = .apply node) ∨ .ok .initDone ∈ between ∨ SeesCordoned before name := by
  obtain ⟨hfollowing, hunscoped⟩ := hhistory
  obtain ⟨⟨node, -, hpassed⟩, rest, hrest, hsilent⟩ := hlast
  rw [List.append_cons] at hfollowing hunscoped hrest hcordoned ⊢
  -- The phases before the event, after it and at the pass.
  obtain ⟨start, hstart, hend⟩ := Option.bind_eq_some_iff.mp (Phase.after?_append .. ▸ hfollowing)
  obtain ⟨mid, hmid, -⟩ := Option.bind_eq_some_iff.mp (Phase.after?_append .. ▸ hend)
  obtain ⟨first, hfirst, hnext⟩ := Option.bind_eq_some_iff.mp (Phase.after?_append .. ▸ hstart)
  have hnext' : first.next? (.ok event : Except ε (Event Node)) = some start := by
    obtain ⟨next, hnext, he⟩ := Option.bind_eq_some_iff.mp hnext
    rw [hnext, ← Option.some.inj he]
  have hquiet : Silent (CordonFilter.told (before ++ [.ok event])) name
      (between ++ after) := by
    rw [CordonFilter.transitions_told] at hrest
    rw [Silent, List.append_cancel_left hrest]
    exact hsilent
  -- The flag that the cache has in the end is remembered since the node was passed.
  have hflag : (CordonFilter.told (before ++ [.ok event] ++ (between ++ after))).lastSeen.find? name
      = some true :=
    (agrees_after hfollowing hunscoped name).trans (seesCordoned_iff_live.mp hcordoned)
  obtain ⟨hquiet_between, hquiet_after⟩ := hquiet.of_append
  have hflag_between : (CordonFilter.told (before ++ [.ok event] ++ between)).lastSeen.find? name
      = some true := by
    rw [← List.append_assoc, CordonFilter.told_append] at hflag
    rw [← CordonFilter.told_append] at hquiet_after
    exact hquiet_after.lastSeen_all hflag
  have hflag_start : (CordonFilter.told (before ++ [.ok event])).lastSeen.find? name
      = some true := by
    rw [CordonFilter.told_append] at hflag_between
    exact hquiet_between.lastSeen_all hflag_between
  rw [seesCordoned_append hstart hmid
      (fun item hitem => hunscoped item
        (by rw [← List.append_assoc]; exact List.mem_append_left _ hitem))
      hquiet_between hflag_between,
    seesCordoned_passed hfirst hnext'
      (fun item hitem => hunscoped item (List.mem_append_left _ hitem)) ⟨node, hpassed⟩ hflag_start]
  exact or_left_comm

/-! ### Passes that act on a cordon -/

/-- A pass asks for the pods of its node exactly if readers of the cache see the node cordoned. -/
theorem asks_podsOnNode_iff {σ : Type} {l : Cluster.Link σ} {s : σ}
    {items : List (Except ε (Event Node))} (hcache : (l.caches s).nodes = Cache.told items)
    (config : Pass.Config) (name : String) :
    .podsOnNode name ∈ ((Pass.overNode config name).dialogue l.handler s).map (·.1) ↔
      SeesCordoned items name := by
  have hread : (l.handler.answer (.getNode name) s).1
      = .ok (({ nodes := Cache.told items } : Cluster.Caches).node? name) := by
    rw [← hcache]
    rfl
  unfold SeesCordoned Pass.overNode
  rw [Program.dialogue, hread]
  cases hnode : ({ nodes := Cache.told items } : Cluster.Caches).node? name with
  | none =>
    constructor
    · intro h
      cases List.mem_singleton.mp h
    · rintro ⟨node, hsome, -⟩
      cases hsome
  | some node =>
    dsimp only
    by_cases hcordoned : node.isCordoned = true
    · rw [hcordoned, if_neg (by decide)]
      refine ⟨fun _ => ⟨node, rfl, hcordoned⟩, fun _ => ?_⟩
      exact List.mem_cons_of_mem _ (List.mem_cons_self ..)
    · rw [Bool.eq_false_iff.mpr hcordoned, if_pos (by decide)]
      constructor
      · intro h
        cases List.mem_singleton.mp h
      · rintro ⟨other, hsome, hother⟩
        rw [← Option.some.inj hsome] at hother
        exact absurd hother hcordoned

/-- When a watch is followed and the cache has a node as cordoned in the end, then a
pass over the node after it was passed for the last time acts on the cordon if the
node was passed when it changed, or the list in which it was passed has been
completed by then, or the cache had it as cordoned before; and not otherwise. -/
theorem lastPassed_asks_podsOnNode_iff {σ : Type} {l : Cluster.Link σ} {s : σ} {name : String}
    {before between after : List (Except ε (Event Node))} {event : Event Node}
    (hhistory : Complete (before ++ .ok event :: (between ++ after)))
    (hlast : LastPassed name before event (between ++ after))
    (hcordoned : SeesCordoned (before ++ .ok event :: (between ++ after)) name)
    (hcache : (l.caches s).nodes = Cache.told (before ++ .ok event :: between))
    (config : Pass.Config) :
    .podsOnNode name ∈ ((Pass.overNode config name).dialogue l.handler s).map (·.1) ↔
      (∃ node, event = .apply node) ∨ .ok .initDone ∈ between ∨ SeesCordoned before name :=
  (asks_podsOnNode_iff hcache config name).trans (seesCordoned_iff hhistory hlast hcordoned)

/-- A node of the name n1. -/
def relistedNode (version : String) (cordoned : Bool) : Node :=
  { metadata := { name := some "n1", resourceVersion := some version }
    unschedulable := some cordoned }

/-- A list with the node not cordoned, and the beginning of another list. -/
def relisting : List (Except Unit (Event Node)) :=
  [.ok .init, .ok (.initApply (relistedNode "1" false)), .ok .initDone, .ok .init]

/-- The second list comes to the node, which was cordoned since the first. -/
def cordonListed : Event Node := .initApply (relistedNode "2" true)

/-- A link to caches that nothing is told any more. -/
def quietLink : Cluster.Link Cluster.Caches where
  caches := id
  send _ c := (.error (.unreachable "connection refused"), c)
  clock _ := ⟨0, 0⟩
  record _ c := c

theorem complete_relisted :
    Complete (relisting ++ .ok cordonListed :: [.ok .initDone]) where
  following := rfl
  unscoped := by
    intro item hitem event node hevent hnode
    subst hevent
    simp only [relisting, cordonListed, List.cons_append, List.nil_append, List.mem_cons,
      List.not_mem_nil, Except.ok.injEq, or_false] at hitem
    rcases hitem with rfl | rfl | rfl | rfl | rfl | rfl <;> cases hnode <;> rfl

theorem lastPassed_relisted :
    LastPassed "n1" relisting cordonListed [.ok .initDone] where
  passed := ⟨relistedNode "2" true, rfl, rfl⟩
  last := ⟨[], rfl, fun _ hnode => absurd hnode List.not_mem_nil⟩

theorem seesCordoned_relisted :
    SeesCordoned (relisting ++ .ok cordonListed :: [.ok .initDone]) "n1" :=
  seesCordoned_iff_live.mpr (by decide +kernel)

/-- A pass after the second list is complete acts on the cordon that the filter
has passed while it ran. -/
theorem lastPassed_asks_podsOnNode_iff_relisted :
    Complete (relisting ++ .ok cordonListed :: [.ok .initDone]) ∧
      .podsOnNode "n1" ∈ ((Pass.overNode {} "n1").dialogue quietLink.handler
        { nodes := Cache.told (relisting ++ .ok cordonListed :: [.ok .initDone]) }).map (·.1) := by
  refine ⟨complete_relisted, ?_⟩
  have hhistory : Complete (relisting ++ .ok cordonListed :: ([.ok .initDone] ++ [])) :=
    complete_relisted
  exact (lastPassed_asks_podsOnNode_iff hhistory lastPassed_relisted seesCordoned_relisted
    rfl {}).mpr (Or.inr (Or.inl (List.mem_singleton_self _)))

/-- A node is cordoned between two lists. The filter passes it when the second one
comes to it, and never again; a pass before that list is complete finds the node
as it was in the first list, and nothing is to happen after it. -/
theorem relisted_cordon_missed :
    Complete (relisting ++ .ok cordonListed :: [.ok .initDone]) ∧
      LastPassed "n1" relisting cordonListed [.ok .initDone] ∧
      SeesCordoned (relisting ++ .ok cordonListed :: [.ok .initDone]) "n1" ∧
      .ok .initDone ∈ relisting ∧
      ¬ SeesCordoned (relisting ++ [.ok cordonListed]) "n1" ∧
      (Pass.overNode {} "n1").run quietLink.handler
          { nodes := Cache.told (relisting ++ [.ok cordonListed]) }
        = (.ok .done, { nodes := Cache.told (relisting ++ [.ok cordonListed]) }) := by
  refine ⟨complete_relisted, lastPassed_relisted, seesCordoned_relisted, ?_, ?_, rfl⟩
  · exact List.mem_cons_of_mem _ (List.mem_cons_of_mem _ (List.mem_cons_self ..))
  · rw [seesCordoned_iff_live]
    decide +kernel

end CordonWatch.Watch
