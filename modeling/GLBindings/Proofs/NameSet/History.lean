import GLBindings.Proofs.NameSet
import Mathlib.Data.Nat.Find

namespace GLBindings.NameSet

/-!
# NameSet — what a set keeps of its history

A set that is changed again and again holds what happened to each name last, in the order in which
the names came in.

* `Change`, `step`, `run` — one change with its answer, and changes in a row.
* `Event`, `history` — what happened, name by name; an erasure that fails leaves no event.
* `Live`, `Entered` — a name that was inserted and not erased since, and where it came in.
* `Keeps` — a set holds the live names in the order in which they came in.  `Keeps.insert` and
  `Keeps.without` are the steps, `Keeps.run` the run.
* `Known`, `run_keeps` — all of it, with the answers and what it means for sets to be equal.
-/

/-! ### Changes -/

/-- What can be asked of a set that changes it. -/
inductive Change where
  | insert (name : String)
  | erase (name : String)
  | extend (other : NameSet)

/-- What is answered to it. -/
inductive Answer where
  /-- The name is in the set now; was it absent? -/
  | inserted (isNew : Bool)
  /-- The name was taken out. -/
  | erased
  /-- The name could not be taken out. -/
  | refused (cause : NotPresent)
  | extended

/-- A change, with the set behind it and the answer. -/
def step (s : NameSet) : Change → NameSet × Answer
  | .insert name =>
    let (t, isNew) := s.add name
    (t, .inserted isNew)
  | .erase name =>
    match s.erase name with
    | .ok t => (t, .erased)
    | .error e => (s, .refused e)
  | .extend other => (s.extend other, .extended)

/-- The set behind several changes. -/
def run (s : NameSet) (changes : List Change) : NameSet :=
  changes.foldl (fun t c => (t.step c).1) s

section Steps

variable {s : NameSet} {name : String}

/-- Adding a name that is there reports that nothing was inserted. -/
theorem add_of_mem (h : name ∈ s) : s.add name = (s, false) :=
  if_pos h

/-- Adding a name that is not there inserts it and says so. -/
theorem add_of_not_mem (h : name ∉ s) : s.add name = (s.insert name, true) :=
  if_neg h

/-- Telling whether a name is new inserts it like any other. -/
theorem add_fst (s : NameSet) (name : String) : (s.add name).1 = s.insert name := by
  by_cases h : name ∈ s
  · rw [add_of_mem h, insert_of_mem h]
  · rw [add_of_not_mem h]

/-- One insertion, with its answer. -/
theorem step_insert (s : NameSet) (name : String) :
    s.step (.insert name) = (s.insert name, .inserted (decide (name ∉ s))) := by
  -- the set is the one of the insertion, and the answer is whether the name was new
  have hstep : s.step (.insert name) = ((s.add name).1, .inserted (s.add name).2) := rfl
  rw [hstep, add_fst]
  by_cases h : name ∈ s
  · rw [add_of_mem h, decide_eq_false (not_not.mpr h)]
  · rw [add_of_not_mem h, decide_eq_true h]

/-- An erasure of a name that is there. -/
theorem step_erase_of_mem (h : name ∈ s) : s.step (.erase name) = (s.without [name], .erased) := by
  rw [step, erase_eq, if_pos h]

/-- An erasure of a name that is not there is refused and leaves the set as it was. -/
theorem step_erase_of_not_mem (h : name ∉ s) : s.step (.erase name) = (s, .refused ⟨name⟩) := by
  rw [step, erase_eq, if_neg h]

/-- The sets along a run: one step, then the rest. -/
theorem run_cons (s : NameSet) (c : Change) (changes : List Change) :
    s.run (c :: changes) = (s.step c).1.run changes :=
  List.foldl_cons

/-- Inserting names one by one is inserting them as a list. -/
theorem run_insert (s : NameSet) (names : List String) :
    s.run (names.map .insert) = s.insertAll names := by
  induction names generalizing s with
  | nil => rfl
  | cons name names ih =>
    -- the answers are dropped, so only the sets count
    rw [List.map_cons, run_cons, step_insert, ih]
    rfl

end Steps

/-! ### Histories -/

/-- What happened to a name. -/
inductive Event where
  | inserted (name : String)
  | erased (name : String)

/-- What a change did, given its answer. -/
def Change.events : Change → Answer → List Event
  | .insert name, _ => [.inserted name]
  | .erase name, .erased => [.erased name]
  | .erase _, _ => []
  | .extend other, _ => other.names.map .inserted

/-- What happens in a run, in order. -/
def history (s : NameSet) : List Change → List Event
  | [] => []
  | c :: changes => c.events (s.step c).2 ++ (s.step c).1.history changes

/-- The name was inserted, and not erased since. -/
def Live (h : List Event) (name : String) : Prop :=
  ∃ i : Nat, h[i]? = some (Event.inserted name) ∧ ∀ j, i < j → h[j]? ≠ some (Event.erased name)

/-- The place of the first insertion of a name since it was erased last. -/
structure Entered (h : List Event) (name : String) (i : Nat) : Prop where
  inserted : h[i]? = some (.inserted name)
  kept : ∀ j, i < j → h[j]? ≠ some (.erased name)
  /-- An earlier insertion was undone. -/
  first : ∀ j < i, h[j]? = some (.inserted name) → ∃ k < i, j < k ∧ h[k]? = some (.erased name)

section Histories

variable {h : List Event} {name other : String} {i j : Nat}

/-- A live name came in somewhere. -/
theorem Live.entered (hlive : Live h name) : ∃ i, Entered h name i := by
  classical
  -- it is the first of the insertions behind which the name is not erased
  obtain ⟨hinserted, hkept⟩ := Nat.find_spec hlive
  refine ⟨Nat.find hlive, hinserted, hkept, fun j hj hjins => ?_⟩
  -- an earlier insertion is not the first such one, so it was undone
  have hundone : ¬ ∀ k, j < k → h[k]? ≠ some (.erased name) :=
    fun hall => Nat.find_min hlive hj ⟨hjins, hall⟩
  push Not at hundone
  obtain ⟨k, hjk, hk⟩ := hundone
  refine ⟨k, ?_, hjk, hk⟩
  rcases Nat.lt_trichotomy k (Nat.find hlive) with hlt | heq | hgt
  · exact hlt
  · rw [heq, hinserted] at hk
    cases hk
  · exact absurd hk (hkept k hgt)

/-- Of two entries of one name neither is the earlier: an entry is the last insertion with no
erasure behind it, and both are. -/
theorem Entered.not_lt (hi : Entered h name i) (hj : Entered h name j) : ¬ i < j := by
  intro hlt
  -- the earlier one would have been undone in between
  obtain ⟨k, -, hik, hk⟩ := hj.first i hlt hi.inserted
  exact hi.kept k hik hk

/-- It came in at one place only. -/
theorem Entered.eq (hi : Entered h name i) (hj : Entered h name j) : i = j := by
  have hij := hi.not_lt hj
  have hji := hj.not_lt hi
  omega

/-- A name with an entry is live. -/
theorem Entered.live (hi : Entered h name i) : Live h name :=
  ⟨i, hi.inserted, hi.kept⟩

/-- An entry is an event of the history. -/
theorem Entered.lt_length (hi : Entered h name i) : i < h.length :=
  (List.getElem?_eq_some_iff.mp hi.inserted).1

/-- What stands in a longer history is the last event, or stood there before. -/
theorem getElem?_concat_eq_some {e x : Event} :
    (h ++ [e])[i]? = some x ↔ h[i]? = some x ∨ i = h.length ∧ e = x := by
  rw [List.getElem?_append]
  by_cases hi : i < h.length
  · rw [if_pos hi]
    exact ⟨.inl, fun hor => hor.resolve_right fun hend => by omega⟩
  · rw [if_neg hi, List.getElem?_singleton, List.getElem?_eq_none (by omega)]
    by_cases hend : i = h.length
    · simp [hend]
    · have hpos : i - h.length ≠ 0 := by omega
      simp [hend, hpos]

/-- A place stays what it is while the name is not erased. -/
theorem Entered.concat {e : Event} (hi : Entered h name i) (he : e ≠ .erased name) :
    Entered (h ++ [e]) name i := by
  refine ⟨getElem?_concat_eq_some.mpr (.inl hi.inserted), fun j hj hjerased => ?_, ?_⟩
  · rcases getElem?_concat_eq_some.mp hjerased with hold | ⟨-, hnew⟩
    · exact hi.kept j hj hold
    · exact he hnew
  · intro j hj hjins
    have hlt := hi.lt_length
    rcases getElem?_concat_eq_some.mp hjins with hold | ⟨hend, -⟩
    · obtain ⟨k, hki, hjk, hk⟩ := hi.first j hj hold
      exact ⟨k, hki, hjk, getElem?_concat_eq_some.mpr (.inl hk)⟩
    · omega

/-- Only an erasure of the name itself ends its life. -/
theorem Live.concat {e : Event} (hlive : Live h name) (he : e ≠ .erased name) :
    Live (h ++ [e]) name := by
  obtain ⟨i, hi⟩ := hlive.entered
  exact (hi.concat he).live

/-- A name that is not live comes in by the next insertion. -/
theorem entered_concat_of_not_live (hdead : ¬ Live h name) :
    Entered (h ++ [.inserted name]) name h.length := by
  refine ⟨getElem?_concat_eq_some.mpr (.inr ⟨rfl, rfl⟩), fun j hj hjerased => ?_, ?_⟩
  · rcases getElem?_concat_eq_some.mp hjerased with hold | ⟨hend, -⟩
    · have hlt := (List.getElem?_eq_some_iff.mp hold).1
      omega
    · omega
  · -- every insertion before was undone, since the name is not live
    intro j hj hjins
    have hold : h[j]? = some (.inserted name) :=
      (getElem?_concat_eq_some.mp hjins).resolve_right fun hend => by omega
    have hundone : ¬ ∀ k, j < k → h[k]? ≠ some (.erased name) := fun hall => hdead ⟨j, hold, hall⟩
    push Not at hundone
    obtain ⟨k, hjk, hk⟩ := hundone
    exact ⟨k, (List.getElem?_eq_some_iff.mp hk).1, hjk, getElem?_concat_eq_some.mpr (.inl hk)⟩

/-- Before any event no name is live. -/
theorem not_live_nil (name : String) : ¬ Live [] name := by
  rintro ⟨i, hi, -⟩
  cases hi

/-- What is live after an insertion. -/
theorem live_concat_inserted :
    Live (h ++ [.inserted other]) name ↔ Live h name ∨ name = other := by
  constructor
  · rintro ⟨i, hi, hkept⟩
    rcases getElem?_concat_eq_some.mp hi with hold | ⟨-, hnew⟩
    · exact .inl ⟨i, hold, fun j hj hk => hkept j hj (getElem?_concat_eq_some.mpr (.inl hk))⟩
    · exact .inr (Event.inserted.inj hnew).symm
  · rintro (hlive | rfl)
    · exact hlive.concat (by simp)
    · -- a name that is live already stays so, with the entry that it has
      by_cases hlive : Live h name
      · exact hlive.concat (by simp)
      · exact (entered_concat_of_not_live hlive).live

/-- What is live after an erasure. -/
theorem live_concat_erased :
    Live (h ++ [.erased other]) name ↔ Live h name ∧ name ≠ other := by
  constructor
  · rintro ⟨i, hi, hkept⟩
    have hold : h[i]? = some (.inserted name) :=
      (getElem?_concat_eq_some.mp hi).resolve_right fun hend => by cases hend.2
    have hlt := (List.getElem?_eq_some_iff.mp hold).1
    refine ⟨⟨i, hold, fun j hj hk => hkept j hj (getElem?_concat_eq_some.mpr (.inl hk))⟩, ?_⟩
    rintro rfl
    -- the last event would have ended its life
    exact hkept h.length hlt (getElem?_concat_eq_some.mpr (.inr ⟨rfl, rfl⟩))
  · rintro ⟨hlive, hne⟩
    exact hlive.concat fun e => hne (Event.erased.inj e).symm

end Histories

/-! ### What a set keeps -/

/-- The one name came in before the other. -/
def Before (h : List Event) (a b : String) : Prop :=
  ∃ i j, Entered h a i ∧ Entered h b j ∧ i < j

/-- The set holds the live names in the order in which they came in. -/
structure Keeps (h : List Event) (s : NameSet) : Prop where
  mem_iff : ∀ name, name ∈ s ↔ Live h name
  ordered : s.names.Pairwise (Before h)

namespace Keeps

variable {h : List Event} {s : NameSet}

/-- The empty set keeps the empty history: the start of the induction over a run. -/
theorem empty : Keeps [] NameSet.empty where
  mem_iff name := iff_of_false (List.not_mem_nil) (not_live_nil name)
  ordered := List.Pairwise.nil

/-- Names that stay keep their order when another event is added. -/
theorem pairwise_concat {e : Event} {names : List String} (hold : names.Pairwise (Before h))
    (hstay : ∀ name ∈ names, e ≠ .erased name) : names.Pairwise (Before (h ++ [e])) := by
  refine hold.imp_of_mem fun {a b} ha hb hab => ?_
  obtain ⟨i, j, hi, hj, hij⟩ := hab
  exact ⟨i, j, hi.concat (hstay a ha), hj.concat (hstay b hb), hij⟩

/-- **Inserting a name.**  An absent one comes in behind all others. -/
theorem insert (hs : Keeps h s) (name : String) : Keeps (h ++ [.inserted name]) (s.insert name) := by
  have hold : s.names.Pairwise (Before (h ++ [.inserted name])) :=
    pairwise_concat hs.ordered fun _ _ => by simp
  by_cases hmem : name ∈ s
  · rw [insert_of_mem hmem]
    refine ⟨fun other => ?_, hold⟩
    rw [live_concat_inserted, ← hs.mem_iff]
    exact ⟨.inl, fun hor => hor.elim id fun e => e ▸ hmem⟩
  · have hnames := names_insert_of_not_mem hmem
    constructor
    case mem_iff =>
      intro other
      rw [live_concat_inserted, ← hs.mem_iff, mem_def, hnames, List.mem_append,
        List.mem_singleton, mem_def]
    case ordered =>
      rw [hnames, List.pairwise_append]
      -- the new name has its entry at the end of the history, behind all others
      refine ⟨hold, List.pairwise_singleton _ _, fun a ha b hb => ?_⟩
      obtain rfl := List.mem_singleton.mp hb
      obtain ⟨i, hi⟩ := ((hs.mem_iff a).mp ha).entered
      have hdead : ¬ Live h b := fun hlive => hmem ((hs.mem_iff b).mpr hlive)
      exact ⟨i, h.length, hi.concat (by simp), entered_concat_of_not_live hdead, hi.lt_length⟩

/-- **Taking a name out.**  The others stay as they are. -/
theorem without (hs : Keeps h s) (name : String) :
    Keeps (h ++ [.erased name]) (s.without [name]) := by
  constructor
  case mem_iff =>
    intro other
    rw [live_concat_erased, ← hs.mem_iff, mem_without, List.mem_singleton]
  case ordered =>
    refine pairwise_concat (hs.ordered.sublist List.filter_sublist) fun other hother => ?_
    have hne : other ≠ name := by simpa using (List.mem_filter.mp hother).2
    exact fun e => hne (Event.erased.inj e).symm

/-- Inserting several names one by one. -/
theorem insertAll (hs : Keeps h s) (names : List String) :
    Keeps (h ++ names.map .inserted) (s.insertAll names) := by
  induction names generalizing h s with
  | nil => rwa [List.map_nil, List.append_nil]
  | cons name names ih =>
    have hrest := ih (hs.insert name)
    rwa [List.append_assoc] at hrest

/-- **One change.** -/
theorem step (hs : Keeps h s) (c : Change) : Keeps (h ++ c.events (s.step c).2) (s.step c).1 := by
  cases c with
  | insert name =>
    rw [step_insert]
    exact hs.insert name
  | erase name =>
    by_cases hmem : name ∈ s
    · rw [step_erase_of_mem hmem]
      exact hs.without name
    · -- nothing happened
      rw [step_erase_of_not_mem hmem]
      exact (List.append_nil h).symm ▸ hs
  | extend other => exact hs.insertAll other.names

/-- **A run.** -/
theorem run (hs : Keeps h s) (changes : List Change) :
    Keeps (h ++ s.history changes) (s.run changes) := by
  induction changes generalizing h s with
  | nil => rwa [history, List.append_nil]
  | cons c changes ih =>
    -- the rest of the run continues the history behind the first change
    have hrest := ih (hs.step c)
    rwa [List.append_assoc] at hrest

/-- A set keeps its own names, inserted one by one. -/
theorem names (s : NameSet) : Keeps (s.names.map .inserted) s := by
  -- the names of a set do not repeat, so inserting them one by one gives them back
  have hself : NameSet.empty.insertAll s.names = s := by
    ext1
    exact (names_ofList s.names).trans (eraseDups_of_nodup s.nodup)
  have hall := Keeps.empty.insertAll s.names
  rwa [hself] at hall

/-- Two names stand in the order in which they came in. -/
theorem lt_iff (hs : Keeps h s) {p q i j : Nat} {a b : String} (hp : s.names[p]? = some a)
    (hq : s.names[q]? = some b) (hi : Entered h a i) (hj : Entered h b j) : p < q ↔ i < j := by
  -- one direction, which is used both ways, since entries are unique
  have hmono : ∀ {p q i j : Nat} {a b : String}, s.names[p]? = some a → s.names[q]? = some b →
      Entered h a i → Entered h b j → p < q → i < j := by
    intro p q i j a b hp hq hi hj hpq
    obtain ⟨hplt, rfl⟩ := List.getElem?_eq_some_iff.mp hp
    obtain ⟨hqlt, rfl⟩ := List.getElem?_eq_some_iff.mp hq
    obtain ⟨i', j', hi', hj', hij⟩ := List.pairwise_iff_getElem.mp hs.ordered p q hplt hqlt hpq
    rwa [hi.eq hi', hj.eq hj']
  constructor
  · exact hmono hp hq hi hj
  · intro hij
    rcases Nat.lt_trichotomy p q with hlt | rfl | hgt
    · exact hlt
    · obtain rfl : a = b := Option.some.inj (hp.symm.trans hq)
      exact absurd (hi.eq hj) (by omega)
    · exact absurd (hmono hq hp hj hi hgt) (by omega)

end Keeps

/-! ### Two sets -/

/-- Sets with the same names differ in their order only. -/
theorem subset_subset_iff (s t : NameSet) : s ⊆ t ∧ t ⊆ s ↔ s.names.Perm t.names := by
  rw [List.perm_ext_iff_of_nodup s.nodup t.nodup]
  constructor
  · rintro ⟨hst, hts⟩ name
    exact ⟨hst name, hts name⟩
  · exact fun hall => ⟨fun name => (hall name).mp, fun name => (hall name).mpr⟩

/-- Two sets are equal exactly if they list the same names in the same order. -/
theorem beq_iff_names (s t : NameSet) : (s == t) = true ↔ s.names = t.names := by
  rw [beq_iff_eq]
  exact ⟨congrArg names, ext⟩

/-! ### All of it together -/

/-- What the history of a set tells about its names, and about what it will answer next. -/
structure Known (h : List Event) (s : NameSet) : Prop where
  /-- No name stands twice. -/
  distinct : s.names.Nodup
  /-- The names are the live ones. -/
  present : ∀ name, name ∈ s ↔ Live h name
  /-- Each of them came in at one place. -/
  entered : ∀ name ∈ s, ∃! i, Entered h name i
  /-- Any two stand in the order in which they came in. -/
  ordered : ∀ (p q i j : Nat) (a b : String), s.names[p]? = some a → s.names[q]? = some b →
    Entered h a i → Entered h b j → (p < q ↔ i < j)
  /-- A name is new when it is not live; otherwise nothing changes. -/
  inserting : ∀ name, (s.add name).1 = s.insert name ∧ ((s.add name).2 = true ↔ ¬ Live h name)
    ∧ (Live h name → s.insert name = s)
  /-- A live name can be taken out; for another nothing changes. -/
  erasing : ∀ name, (Live h name → (s.step (.erase name)).2 = .erased)
    ∧ (¬ Live h name → s.step (.erase name) = (s, .refused ⟨name⟩))
  /-- Adding a set is inserting its names one by one. -/
  extending : ∀ other : NameSet, s.extend other = s.run (other.names.map .insert)

/-- A set that keeps a history answers every question the history answers. -/
theorem Keeps.known {h : List Event} {s : NameSet} (hs : Keeps h s) : Known h s := by
  constructor
  case distinct => exact s.nodup
  case present => exact hs.mem_iff
  case entered =>
    intro name hname
    obtain ⟨i, hi⟩ := ((hs.mem_iff name).mp hname).entered
    exact ⟨i, hi, fun j hj => hj.eq hi⟩
  case ordered => exact fun _ _ _ _ _ _ => hs.lt_iff
  case inserting =>
    intro name
    rw [← hs.mem_iff]
    refine ⟨add_fst s name, ?_, insert_of_mem⟩
    by_cases hname : name ∈ s
    · rw [add_of_mem hname]
      exact iff_of_false Bool.false_ne_true (not_not.mpr hname)
    · rw [add_of_not_mem hname]
      exact iff_of_true rfl hname
  case erasing =>
    intro name
    rw [← hs.mem_iff]
    exact ⟨fun hmem => by rw [step_erase_of_mem hmem], step_erase_of_not_mem⟩
  case extending => exact fun other => (run_insert s other.names).symm

/-- **What a set keeps of its history.**  Whatever is asked of a set, at every point its names are
the live ones, each in the place that its first insertion since its last erasure gives it, and its
next answer is known from that.  Sets are equal when they list the same names in the same order, and
each is part of the other when the one list is a permutation of the other. -/
theorem run_keeps :
    (∀ (start : NameSet) (changes : List Change),
      Known (start.names.map .inserted ++ start.history changes) (start.run changes))
    ∧ ∀ s t : NameSet, ((s == t) = true ↔ s.names = t.names)
      ∧ (s ⊆ t ∧ t ⊆ s ↔ s.names.Perm t.names) :=
  ⟨fun start changes => ((Keeps.names start).run changes).known,
    fun s t => ⟨beq_iff_names s t, subset_subset_iff s t⟩⟩

/-- A name that is erased and inserted again, one that was never there, and a set in part known. -/
def reinserting : List Change :=
  [.insert "a", .insert "b", .erase "a", .erase "c", .insert "a", .extend (ofList ["b", "d"])]

/-- The name that came back stands behind the one that stayed. -/
theorem run_keeps_reinserting : ∃ i j,
    (empty.run reinserting).names = ["b", "a", "d"]
      ∧ Entered (empty.history reinserting) "b" i ∧ Entered (empty.history reinserting) "a" j
      ∧ i < j
      ∧ ((empty.run reinserting).add "d").2 = false
      ∧ (empty.run reinserting).step (.erase "c") = (empty.run reinserting, .refused ⟨"c"⟩) := by
  have hnames : (empty.run reinserting).names = ["b", "a", "d"] := by decide
  have hknown : Known (empty.history reinserting) (empty.run reinserting) :=
    run_keeps.1 empty reinserting
  have hmem : ∀ name, name ∈ empty.run reinserting ↔ name ∈ ["b", "a", "d"] := by
    intro name
    rw [mem_def, hnames]
  obtain ⟨i, hi, -⟩ := hknown.entered "b" ((hmem "b").mpr (by decide))
  obtain ⟨j, hj, -⟩ := hknown.entered "a" ((hmem "a").mpr (by decide))
  have hd : Live (empty.history reinserting) "d" :=
    (hknown.present "d").mp ((hmem "d").mpr (by decide))
  have hc : ¬ Live (empty.history reinserting) "c" :=
    fun h => absurd ((hmem "c").mp ((hknown.present "c").mpr h)) (by decide)
  refine ⟨i, j, hnames, hi, hj, ?_, ?_, (hknown.erasing "c").2 hc⟩
  · exact (hknown.ordered 0 1 i j "b" "a" (by rw [hnames]; rfl) (by rw [hnames]; rfl) hi hj).mp
      Nat.one_pos
  · exact Bool.eq_false_iff.mpr fun htrue => (hknown.inserting "d").2.1.mp htrue hd

end GLBindings.NameSet
