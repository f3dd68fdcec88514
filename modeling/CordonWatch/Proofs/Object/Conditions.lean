import CordonWatch.Proofs.Object.Edits
import CordonWatch.Proofs.Split

/-!
# Conditions set one after another

What a list of conditions has become after any number of conditions were set in it is said
here by the list as it was and by the conditions that were set, type by type. The entries
stay where they are, and a type that had none gets one at the end, in the order in which
the types first came (`map_type_setAll`). Of each type only the first entry is written
(`getElem?_setAll`, `exists_of_appended`).

An entry that is written says what the last condition of its type said. Its time is that of
the last one that changed the status value, which is a matter of all conditions of its type
in order (`Since`). `PodStatus.setConditions_settled` puts this together for the status of
a pod, together with what each call reports.
-/

namespace CordonWatch

namespace PodCondition

/-! ### The time of the last transition -/

/-- The status value that conditions of one type leave when they are set in order, where
there was an entry before them or none. -/
def statusAfter (start : Option PodCondition) (cs : List PodCondition) : Option String :=
  (cs.getLast?.or start).map (·.status)

/-- Setting the condition after others changes the status value, or there was none yet. -/
def Flips (start : Option PodCondition) (earlier : List PodCondition) (c : PodCondition) : Prop :=
  statusAfter start earlier ≠ some c.status

/-- The time is that of the last condition that changed the status value, and that of the
entry before all of them if none did. -/
inductive Since (start : Option PodCondition) (cs : List PodCondition) : Option Instant → Prop
  | flipped (before after : List PodCondition) (c : PodCondition)
      (split : cs = before ++ c :: after) (flips : Flips start before c)
      (last : ∀ mid d rest, after = mid ++ d :: rest → ¬Flips start (before ++ c :: mid) d) :
    Since start cs c.lastTransitionTime
  | kept (e : PodCondition) (entry : start = some e)
      (none : ∀ before c after, cs = before ++ c :: after → ¬Flips start before c) :
    Since start cs e.lastTransitionTime

/-- What has become of an entry, or of none, by setting conditions of one type. -/
structure Settled (start : Option PodCondition) (cs : List PodCondition) (e : PodCondition) :
    Prop where
  last : ∃ c, cs.getLast? = some c ∧ e = { c with lastTransitionTime := e.lastTransitionTime }
  since : Since start cs e.lastTransitionTime

section

variable {start : Option PodCondition} {cs : List PodCondition} {c e : PodCondition}
  {time : Option Instant}

theorem Since.of_flips (h : Flips start cs c) : Since start (cs ++ [c]) c.lastTransitionTime :=
  .flipped cs [] c rfl h fun mid d rest hsplit => absurd hsplit.symm (by simp)

theorem Since.of_not_flips (h : Since start cs time) (hc : ¬Flips start cs c) :
    Since start (cs ++ [c]) time := by
  cases h with
  | flipped before after d hsplit hflips hlast =>
    refine .flipped before (after ++ [c]) d (by rw [hsplit]; simp) hflips fun mid d' rest hmid => ?_
    rcases concat_eq_append_cons.mp hmid with ⟨-, rfl, rfl⟩ | ⟨rest', -, hafter⟩
    · rwa [← hsplit]
    · exact hlast mid d' rest' hafter
  | kept e hentry hnone =>
    refine .kept e hentry fun before d after hsplit => ?_
    rcases concat_eq_append_cons.mp hsplit with ⟨-, rfl, rfl⟩ | ⟨after', -, hcs⟩
    · exact hc
    · exact hnone before d after' hcs

/-- One condition more, over an entry that shows the status value that the others left. -/
theorem Since.replacing (h : Since start cs e.lastTransitionTime)
    (hstatus : statusAfter start cs = some e.status) :
    Settled start (cs ++ [c]) (c.replacing e) := by
  by_cases hsame : e.status = c.status
  · have hkept : c.replacing e = { c with lastTransitionTime := e.lastTransitionTime } :=
      if_pos hsame
    rw [hkept]
    refine ⟨⟨c, List.getLast?_concat, rfl⟩, h.of_not_flips fun hflips => hflips ?_⟩
    rw [hstatus, hsame]
  · have hnew : c.replacing e = c := if_neg hsame
    rw [hnew]
    refine ⟨⟨c, List.getLast?_concat, rfl⟩, .of_flips fun heq => hsame ?_⟩
    exact Option.some.inj (hstatus.symm.trans heq)

theorem Settled.status (h : Settled start cs e) : statusAfter start cs = some e.status := by
  obtain ⟨c, hlast, he⟩ := h.last
  rw [statusAfter, hlast, he]
  rfl

end

/-- What conditions of its type make of an entry when they are set in order. -/
def overwritten (e : PodCondition) (cs : List PodCondition) : PodCondition :=
  cs.foldl (fun e c => c.replacing e) e

theorem Settled.overwritten {start : Option PodCondition} {cs : List PodCondition}
    {e : PodCondition} (h : Settled start cs e) (more : List PodCondition) :
    Settled start (cs ++ more) (e.overwritten more) := by
  induction more generalizing cs e with
  | nil => rwa [List.append_nil]
  | cons c rest ih =>
    have hnext := ih (h.since.replacing h.status (c := c))
    rwa [List.append_assoc] at hnext

/-- An entry that was there is settled by the first condition of its type. -/
theorem settled_overwritten (e c : PodCondition) (rest : List PodCondition) :
    Settled (some e) (c :: rest) (e.overwritten (c :: rest)) := by
  have hkept : Since (some e) [] e.lastTransitionTime :=
    .kept e rfl fun before d after hsplit => absurd hsplit.symm (by simp)
  exact (hkept.replacing rfl).overwritten rest

/-- Where there was no entry the first condition of the type becomes one. -/
theorem settled_appended (c : PodCondition) (rest : List PodCondition) :
    Settled none (c :: rest) (c.overwritten rest) := by
  have hflips : Flips none [] c := fun h => nomatch h
  have hfirst : Settled none [c] c := ⟨⟨c, rfl, rfl⟩, Since.of_flips hflips⟩
  exact hfirst.overwritten rest

theorem overwritten_type {e : PodCondition} {cs : List PodCondition}
    (h : ∀ c ∈ cs, c.type = e.type) : (e.overwritten cs).type = e.type := by
  induction cs generalizing e with
  | nil => rfl
  | cons c rest ih =>
    obtain ⟨hc, hrest⟩ := List.forall_mem_cons.mp h
    have htype : (c.replacing e).type = e.type := (replacing_type c e).trans hc
    exact (ih fun d hd => (hrest d hd).trans htype.symm).trans htype

/-! ### The whole list -/

/-- Sets conditions in a list, one after another. -/
def setAll (cs l : List PodCondition) : List PodCondition := cs.foldl (fun l c => (c.set l).1) l

/-- The conditions of a type, in order. -/
def ofType (type : String) (cs : List PodCondition) : List PodCondition :=
  cs.filter (·.type = type)

/-- The conditions of all types but one. -/
def notOfType (type : String) (cs : List PodCondition) : List PodCondition :=
  cs.filter (·.type ≠ type)

/-- The first entry takes all conditions of its type, and the others go past it. -/
theorem setAll_cons (cs : List PodCondition) (d : PodCondition) (rest : List PodCondition) :
    setAll cs (d :: rest)
      = d.overwritten (ofType d.type cs) :: setAll (notOfType d.type cs) rest := by
  induction cs generalizing d rest with
  | nil => rfl
  | cons c cs ih =>
    -- Whether the entry takes the condition or not, its type stays what it was.
    show setAll cs (c.set (d :: rest)).1 = _
    by_cases hd : d.type = c.type
    · have htype : (c.replacing d).type = d.type := (replacing_type c d).trans hd.symm
      rw [set, if_pos hd, ih, htype]
      simp [ofType, notOfType, hd, overwritten]
    · rw [set, if_neg hd]
      dsimp only
      rw [ih]
      simp [ofType, notOfType, Ne.symm hd, setAll]

/-- The first condition of all is added to an empty list. -/
theorem setAll_nil_cons (c : PodCondition) (cs : List PodCondition) :
    setAll (c :: cs) [] = c.overwritten (ofType c.type cs) :: setAll (notOfType c.type cs) [] :=
  setAll_cons cs c []

theorem ofType_notOfType_self (type : String) (cs : List PodCondition) :
    ofType type (notOfType type cs) = [] := by
  simp [ofType, notOfType, List.filter_filter]

theorem ofType_notOfType {type type' : String} (h : type' ≠ type) (cs : List PodCondition) :
    ofType type' (notOfType type cs) = ofType type' cs := by
  unfold ofType notOfType
  rw [List.filter_filter]
  refine List.filter_congr fun c _ => ?_
  by_cases hc : c.type = type'
  · simp [hc, h]
  · simp [hc]

theorem type_of_mem_ofType {type : String} {cs : List PodCondition} :
    ∀ c ∈ ofType type cs, c.type = type := by
  intro c hc
  simpa using (List.mem_filter.mp hc).2

theorem ofType_eq_nil_iff {type : String} {cs : List PodCondition} :
    ofType type cs = [] ↔ ∀ c ∈ cs, c.type ≠ type := by
  simp [ofType]

/-- Induction on conditions, with those of one type at a time. -/
@[elab_as_elim]
theorem types_induction {motive : List PodCondition → Prop} (nil : motive [])
    (cons : ∀ c rest, motive (notOfType c.type rest) → motive (c :: rest)) :
    ∀ cs, motive cs
  | [] => nil
  | c :: rest => cons c rest (types_induction nil cons (notOfType c.type rest))
termination_by cs => cs.length
decreasing_by exact Nat.lt_succ_of_le (List.length_filter_le _ rest)

theorem map_type_setAll_nil (cs : List PodCondition) :
    (setAll cs []).map (·.type) = (cs.map (·.type)).eraseDups := by
  induction cs using types_induction with
  | nil => rfl
  | cons c rest ih =>
    have hothers : (notOfType c.type rest).map (·.type)
        = (rest.map (·.type)).filter fun type => !type == c.type := by
      rw [List.filter_map]
      refine congrArg _ (List.filter_congr fun d _ => ?_)
      rw [Bool.eq_iff_iff]
      simp
    rw [setAll_nil_cons, List.map_cons, overwritten_type type_of_mem_ofType, ih, List.map_cons,
      List.eraseDups_cons, hothers]

/-- All types keep their places, and new ones are added in the order in which they first came. -/
theorem map_type_setAll (cs l : List PodCondition) :
    (setAll cs l).map (·.type) = l.map (·.type)
      ++ ((cs.map (·.type)).filter (· ∉ l.map (·.type))).eraseDups := by
  induction l generalizing cs with
  | nil =>
    rw [map_type_setAll_nil]
    simp
  | cons d rest ih =>
    have hothers : ((notOfType d.type cs).map (·.type)).filter (· ∉ rest.map (·.type))
        = (cs.map (·.type)).filter (· ∉ (d :: rest).map (·.type)) := by
      unfold notOfType
      rw [List.filter_map, List.filter_map, List.filter_filter]
      refine congrArg _ (List.filter_congr fun c _ => ?_)
      rw [Bool.eq_iff_iff]
      simp [and_comm]
    rw [setAll_cons, List.map_cons, overwritten_type type_of_mem_ofType, ih, hothers]
    rfl

/-- The first entry of a type takes all conditions of the type, and no other entry any. -/
theorem getElem?_setAll {cs l : List PodCondition} {i : Nat} {e : PodCondition}
    (h : l[i]? = some e) :
    (setAll cs l)[i]? = some (if ∃ d ∈ l.take i, d.type = e.type then e
      else e.overwritten (ofType e.type cs)) := by
  induction l generalizing cs i with
  | nil => cases h
  | cons d rest ih =>
    rw [setAll_cons]
    cases i with
    | zero =>
      cases h
      simp
    | succ i =>
      rw [List.getElem?_cons_succ] at h ⊢
      rw [ih h]
      by_cases hd : d.type = e.type
      · -- The first entry has taken all conditions of the type, and none is left for this one.
        rw [hd, ofType_notOfType_self]
        simp [hd, overwritten]
      · rw [ofType_notOfType (Ne.symm hd)]
        simp [hd]

/-- Conditions of a type are found without a type only if it is another one. -/
theorem ofType_eq_of_notOfType {type type' : String} {cs : List PodCondition} {c : PodCondition}
    {rest : List PodCondition} (h : ofType type' (notOfType type cs) = c :: rest) :
    ofType type' cs = c :: rest := by
  rwa [ofType_notOfType] at h
  rintro rfl
  rw [ofType_notOfType_self] at h
  cases h

/-- An entry of a list that began empty is one that was set, with what came after it. -/
theorem exists_of_mem_setAll_nil {cs : List PodCondition} {e : PodCondition}
    (h : e ∈ setAll cs []) : ∃ c rest, ofType e.type cs = c :: rest ∧ e = c.overwritten rest := by
  induction cs using types_induction with
  | nil => cases h
  | cons c rest ih =>
    rw [setAll_nil_cons] at h
    rcases List.mem_cons.mp h with rfl | h
    · refine ⟨c, ofType c.type rest, ?_, rfl⟩
      rw [overwritten_type type_of_mem_ofType]
      simp [ofType]
    · -- The entry is not of the type of the first condition, whose conditions went elsewhere.
      obtain ⟨c', rest', hof, he⟩ := ih h
      have hpast : notOfType c.type (c :: rest) = notOfType c.type rest := by simp [notOfType]
      rw [← hpast] at hof
      exact ⟨c', rest', ofType_eq_of_notOfType hof, he⟩

/-- An entry past those that were there is one that was set, with what came after it. -/
theorem exists_of_appended {cs l : List PodCondition} {i : Nat} {e : PodCondition}
    (hi : l.length ≤ i) (h : (setAll cs l)[i]? = some e) :
    ∃ c rest, ofType e.type cs = c :: rest ∧ e = c.overwritten rest := by
  induction l generalizing cs i with
  | nil => exact exists_of_mem_setAll_nil (List.mem_of_getElem? h)
  | cons d rest ih =>
    rw [setAll_cons] at h
    cases i with
    | zero => exact absurd hi (Nat.not_succ_le_zero _)
    | succ i =>
      obtain ⟨c, more, hof, he⟩ := ih (Nat.le_of_succ_le_succ hi) h
      exact ⟨c, more, ofType_eq_of_notOfType hof, he⟩

end PodCondition

namespace PodStatus

/-- Sets conditions in a status, one after another. -/
def setConditions (s : PodStatus) (cs : List PodCondition) : PodStatus :=
  cs.foldl (fun s c => (s.setCondition c).1) s

/-- Only the list of conditions is touched, and one that is lacking comes with the first one. -/
theorem setConditions_eq (s : PodStatus) (cs : List PodCondition) :
    s.setConditions cs = { s with
      conditions := if cs.isEmpty then s.conditions
        else some (PodCondition.setAll cs (s.conditions.getD [])) } := by
  induction cs generalizing s with
  | nil => rfl
  | cons c rest ih =>
    show (s.setCondition c).1.setConditions rest = _
    rw [ih]
    cases rest with
    | nil => rfl
    | cons _ _ => rfl

theorem getD_conditions_setConditions (s : PodStatus) (cs : List PodCondition) :
    (s.setConditions cs).conditions.getD [] = PodCondition.setAll cs (s.conditions.getD []) := by
  rw [setConditions_eq]
  cases cs with
  | nil => rfl
  | cons _ _ => rfl

/-- A change is reported if there is one: the whole list is another one, or there was none. -/
theorem setCondition_changed_iff (s : PodStatus) (c : PodCondition) :
    (s.setCondition c).2 = true ↔ (s.setCondition c).1 ≠ s := by
  obtain hnone | ⟨l, hl⟩ := Option.eq_none_or_eq_some s.conditions
  · have hset : s.setCondition c = ({ s with conditions := some [c] }, true) := by
      rw [setCondition, hnone]
      rfl
    rw [hset]
    refine iff_of_true rfl fun heq => ?_
    have hconditions := congrArg conditions heq
    rw [hnone] at hconditions
    cases hconditions
  · have hset : s.setCondition c
        = ({ s with conditions := some (c.set l).1 }, (c.set l).2) := by
      rw [setCondition, hl]
      rfl
    have hsame : (s.setCondition c).1 = s ↔ (c.set l).1 = l := by
      rw [hset]
      constructor
      · intro heq
        have hconditions := congrArg conditions heq
        rw [hl] at hconditions
        exact Option.some.inj hconditions
      · intro heq
        rw [heq, ← hl]
    rw [ne_eq, hsame, hset]
    exact PodCondition.set_changed_iff c l

/-- Setting conditions in a status, one after another.

Every call reports whether the status is another one after it, and nothing but the list of
conditions is ever touched. The entries that were there keep their places, and one is added
for every type that was not there, when it first comes. Of the entries that were there, the
first of each type that was set is settled by all conditions of its type, and the others stay
as they were. An entry that was added is settled likewise. -/
theorem setConditions_settled (s : PodStatus) (cs : List PodCondition) :
    let initial := s.conditions.getD []
    let final := (s.setConditions cs).conditions.getD []
    (∀ before c after, cs = before ++ c :: after →
      let now := s.setConditions before
      ((now.setCondition c).2 = true ↔ (now.setCondition c).1 ≠ now)) ∧
    s.setConditions cs =
      { s with conditions := if cs.isEmpty then s.conditions else some final } ∧
    final.map (·.type) = initial.map (·.type)
      ++ ((cs.map (·.type)).filter (· ∉ initial.map (·.type))).eraseDups ∧
    (∀ i e, initial[i]? = some e →
      ((∃ d ∈ initial.take i, d.type = e.type) ∨ (∀ c ∈ cs, c.type ≠ e.type) →
        final[i]? = some e) ∧
      ((∀ d ∈ initial.take i, d.type ≠ e.type) ∧ (∃ c ∈ cs, c.type = e.type) →
        ∃ e', final[i]? = some e' ∧
          PodCondition.Settled (some e) (PodCondition.ofType e.type cs) e')) ∧
    (∀ i e, initial.length ≤ i → final[i]? = some e →
      PodCondition.Settled none (PodCondition.ofType e.type cs) e) := by
  intro initial final
  have hfinal : final = PodCondition.setAll cs initial := getD_conditions_setConditions s cs
  refine ⟨fun before c _ _ => setCondition_changed_iff _ c, ?only, ?types, ?present, ?added⟩
  case only =>
    rw [hfinal]
    exact setConditions_eq s cs
  case types =>
    rw [hfinal]
    exact PodCondition.map_type_setAll cs initial
  case present =>
    intro i e hi
    rw [hfinal, PodCondition.getElem?_setAll hi]
    refine ⟨fun h => congrArg some ?_, fun ⟨hfirst, c, hc, htype⟩ => ?_⟩
    · by_cases hearlier : ∃ d ∈ initial.take i, d.type = e.type
      · exact if_pos hearlier
      · have hnone : PodCondition.ofType e.type cs = [] :=
          PodCondition.ofType_eq_nil_iff.mpr (h.resolve_left hearlier)
        rw [if_neg hearlier, hnone]
        rfl
    · have hearlier : ¬∃ d ∈ initial.take i, d.type = e.type :=
        fun ⟨d, hd, heq⟩ => hfirst d hd heq
      refine ⟨_, rfl, ?_⟩
      rw [if_neg hearlier]
      cases hset : PodCondition.ofType e.type cs with
      | nil => exact absurd htype (PodCondition.ofType_eq_nil_iff.mp hset c hc)
      | cons first more => exact PodCondition.settled_overwritten e first more
  case added =>
    intro i e hi he
    rw [hfinal] at he
    obtain ⟨first, more, hset, rfl⟩ := PodCondition.exists_of_appended hi he
    rw [hset]
    exact PodCondition.settled_appended first more

/-- A pod that is ready, and that has two entries about one disruption. -/
def doubled : PodStatus where
  conditions := some [
    { type := "Ready", status := "True", lastTransitionTime := some ⟨1, 0⟩ },
    { type := "DisruptionTarget", status := "False" },
    { type := "DisruptionTarget", status := "True", lastTransitionTime := some ⟨2, 0⟩ }]

/-- An eviction is announced twice, and the pod gets a place in between. -/
def announcements : List PodCondition := [
  .evictionAnticipated ⟨5, 0⟩,
  { type := "PodScheduled", status := "True", lastTransitionTime := some ⟨6, 0⟩ },
  .evictionAnticipated ⟨7, 0⟩]

/-- The first of the two entries is flipped by the first announcement, whose time it keeps over
the second one. That one changes nothing, and the second entry stays what it was. -/
theorem setConditions_settled_announced :
    ∃ initial final, doubled.conditions = some initial ∧
      doubled.setConditions announcements = { doubled with conditions := some final } ∧
      final.map (·.type) = ["Ready", "DisruptionTarget", "DisruptionTarget", "PodScheduled"] ∧
      (∃ quiet, initial[1]? = some quiet ∧
        (∀ d ∈ initial.take 1, d.type ≠ quiet.type) ∧ (∃ c ∈ announcements, c.type = quiet.type) ∧
        ∃ e, final[1]? = some e ∧ e.lastTransitionTime = some ⟨5, 0⟩ ∧
          PodCondition.Settled (some quiet) (PodCondition.ofType quiet.type announcements) e) ∧
      final[2]? = initial[2]? ∧
      ∃ before last, announcements = before ++ [last] ∧
        ((doubled.setConditions before).setCondition last).2 = false := by
  obtain ⟨hreports, honly, htypes, hpresent, -⟩ := setConditions_settled doubled announcements
  refine ⟨_, _, rfl, honly, htypes.trans (by decide +kernel), ?_, ?_, ?_⟩
  · have hfirst : ∀ d ∈ (doubled.conditions.getD []).take 1, d.type ≠ "DisruptionTarget" := by
      decide +kernel
    have hset : ∃ c ∈ announcements, c.type = "DisruptionTarget" := by decide +kernel
    obtain ⟨e, he, hsettled⟩ := (hpresent 1 _ rfl).2 ⟨hfirst, hset⟩
    refine ⟨_, rfl, hfirst, hset, e, he, ?_, hsettled⟩
    have htime : ((doubled.setConditions announcements).conditions.getD [])[1]?.map
        (·.lastTransitionTime) = some (some ⟨5, 0⟩) := by decide +kernel
    rw [he] at htime
    exact Option.some.inj htime
  · exact (hpresent 2 _ rfl).1 (Or.inl (by decide +kernel))
  · refine ⟨announcements.take 2, .evictionAnticipated ⟨7, 0⟩, rfl, ?_⟩
    have hsame := hreports (announcements.take 2) (.evictionAnticipated ⟨7, 0⟩) [] rfl
    exact Bool.eq_false_iff.mpr fun htrue => hsame.mp htrue (by decide +kernel)

end PodStatus

end CordonWatch
