import GLBindings.Proofs.Catalog
import GLBindings.Proofs.Traversal
import GLBindings.Reference
import Mathlib

namespace GLBindings

open Catalog

/-!
# ReferencedTypes — every type that is needed, what it requires first

A type that is looked up brings along what it requires, which may bring along more, and may lead
back to where the walk has been.  This file says what is listed in the end, and in which order.

* `Registry.Requires`, `Registry.Reaches` — from a type to what it requires, directly or through
  others.
* `requiredPath_some` — one step of the walk; `mem_requiredPath`, `nodup_requiredPath`,
  `reaches_of_mem_requiredPath`, `behind_requiredPath` — what a whole walk lists.
* `Arranged` — the invariant of the list; `Arranged.listType` keeps it, and `mem_foldl_listType`
  says what a run over many names lists.
* `referencedTypes_spec` — what is listed for any selection, and when nothing is.
-/

/-! ### What types require -/

namespace Registry

variable (r : Registry)

/-- The type `t` requires `d`, which is declared. -/
def Requires (t d : TypeDef) : Prop := t.requires.bind r.typeNamed = some d

/-- The type `d` is `t`, or `t` requires it directly or through others. -/
def Reaches : TypeDef → TypeDef → Prop := Relation.ReflTransGen r.Requires

/-- Where the walk starts: the types that a selection names, and every declared type that one of
its commands returns or takes. -/
def IsSeed (s : NameSelection) (t : TypeDef) : Prop :=
  (∃ name ∈ s.types, r.typeNamed name = some t)
    ∨ ∃ name ∈ s.commands, ∃ c, r.commandNamed name = some c
      ∧ ∃ base ∈ c.returnBase.toList ++ c.params.map (·.base), r.typeNamed base = some t

/-- Every type and every command that a selection names is declared. -/
def Declares (s : NameSelection) : Prop :=
  (∀ name ∈ s.types, ∃ t, r.typeNamed name = some t)
    ∧ ∀ name ∈ s.commands, ∃ c, r.commandNamed name = some c

variable {r}

/-- A definition requires the first definition of the name it gives. -/
theorem requires_iff {t d : TypeDef} :
    r.Requires t d ↔ ∃ name, t.requires = some name ∧ r.typeNamed name = some d :=
  Option.bind_eq_some_iff

end Registry

/-! ### One walk -/

namespace Catalog

section Walk

variable {r : Registry} {available : Index TypeDef} {name : String} {t : TypeDef}

/-- The path of a name that is not available is empty. -/
theorem requiredPath_none (h : available.find? name = none) : requiredPath available name = [] := by
  rw [requiredPath]
  split
  · rfl
  · simp_all

/-- A type stands behind the walk from what it requires, on which it is not met again. -/
theorem requiredPath_some (h : available.find? name = some t) :
    requiredPath available name
      = t.requires.toList.flatMap (requiredPath (available.erase name)) ++ [t] := by
  rw [requiredPath]
  split
  · simp_all
  · rename_i u hu
    obtain rfl : u = t := Option.some.inj (hu.symm.trans h)
    -- nothing is required, or one name
    cases u.requires <;> simp

/-- Whatever is available is the first declaration of its name. -/
def Within (r : Registry) (available : Index TypeDef) : Prop :=
  ∀ name t, available.find? name = some t → r.typeNamed name = some t

/-- What is found after an erasure was there before, under another name. -/
theorem find?_of_find?_erase {other : String} (h : (available.erase name).find? other = some t) :
    other ≠ name ∧ available.find? other = some t := by
  rw [Index.find?_erase] at h
  split at h
  · cases h
  · exact ⟨‹_›, h⟩

/-- Taking a name out leaves every other definition the one the registry declares. -/
theorem Within.erase (h : Within r available) (name : String) :
    Within r (available.erase name) :=
  fun other t ht => h other t (find?_of_find?_erase ht).2

/-- What is on a walk was available. -/
theorem mem_requiredPath (hA : Within r available) (h : t ∈ requiredPath available name) :
    available.find? t.name = some t := by
  induction available, name using requiredPath.induct with
  | case1 available name hnone =>
    rw [requiredPath_none hnone] at h
    cases h
  | case2 available name u hu hr =>
    rw [requiredPath_some hu, hr] at h
    obtain rfl : t = u := by simpa using h
    rwa [name_of_find? (hA _ _ hu)]
  | case3 available name u hu dependency hr ih =>
    rw [requiredPath_some hu, hr, List.mem_append, List.mem_singleton] at h
    rcases h with h | rfl
    · exact (find?_of_find?_erase (ih (hA.erase name) (by simpa using h))).2
    · rwa [name_of_find? (hA _ _ hu)]

/-- A walk lists no name twice, since it takes each away that it meets. -/
theorem nodup_requiredPath (hA : Within r available) :
    ((requiredPath available name).map (·.name)).Nodup := by
  -- along the walk, which gets shorter by the name that it takes away
  induction available, name using requiredPath.induct with
  | case1 available name hnone =>
    rw [requiredPath_none hnone]
    exact List.nodup_nil
  | case2 available name u hu hr =>
    rw [requiredPath_some hu, hr]
    simp
  | case3 available name u hu dependency hr ih =>
    rw [requiredPath_some hu, hr, Option.toList_some, List.flatMap_singleton, List.map_append]
    refine List.nodup_append'.mpr ⟨ih (hA.erase name), List.nodup_singleton _, ?_⟩
    -- the rest of the walk goes on without `name`, which is the name of `u`
    rw [List.map_singleton, List.disjoint_singleton]
    intro hmem
    obtain ⟨d, hd, hname⟩ := List.mem_map.mp hmem
    have hne := (find?_of_find?_erase (mem_requiredPath (hA.erase name) hd)).1
    exact hne (hname.trans (name_of_find? (hA _ _ hu)))

/-- The path of an available name holds its definition. -/
theorem self_mem_requiredPath (h : available.find? name = some t) :
    t ∈ requiredPath available name := by
  rw [requiredPath_some h]
  exact List.mem_append_right _ (List.mem_singleton_self t)

/-- A walk goes along requirements only. -/
theorem reaches_of_mem_requiredPath (hA : Within r available)
    (h : t ∈ requiredPath available name) :
    ∃ u, available.find? name = some u ∧ r.Reaches u t := by
  induction available, name using requiredPath.induct with
  | case1 available name hnone =>
    rw [requiredPath_none hnone] at h
    cases h
  | case2 available name u hu hr =>
    rw [requiredPath_some hu, hr] at h
    obtain rfl : t = u := by simpa using h
    exact ⟨t, hu, .refl⟩
  | case3 available name u hu dependency hr ih =>
    rw [requiredPath_some hu, hr, List.mem_append, List.mem_singleton] at h
    rcases h with h | rfl
    · obtain ⟨d, hd, hreach⟩ := ih (hA.erase name) (by simpa using h)
      -- the walk goes on to what its start requires
      have hreq : r.Requires u d :=
        Registry.requires_iff.mpr ⟨dependency, hr, hA.erase name _ _ hd⟩
      exact ⟨u, hu, .head hreq hreach⟩
    · exact ⟨t, hu, .refl⟩

/-- What a type on the walk requires is not available, or stands before it, or leads back to it. -/
theorem behind_requiredPath (hA : Within r available) (h : t ∈ requiredPath available name)
    {d : TypeDef} (hreq : r.Requires t d) :
    available.find? d.name = none
      ∨ d ∈ requiredPath available name
        ∧ ([d, t].Sublist (requiredPath available name) ∨ r.Reaches d t) := by
  obtain ⟨m, hm, hd⟩ := Registry.requires_iff.mp hreq
  have hdname : d.name = m := name_of_find? hd
  induction available, name using requiredPath.induct with
  | case1 available name hnone =>
    rw [requiredPath_none hnone] at h
    cases h
  | case2 available name u hu hr =>
    rw [requiredPath_some hu, hr] at h
    obtain rfl : t = u := by simpa using h
    rw [hr] at hm
    cases hm
  | case3 available name u hu dependency hr ih =>
    have hA' := hA.erase name
    have hu' : r.typeNamed name = some u := hA _ _ hu
    have hpath := requiredPath_some hu
    rw [hr, Option.toList_some, List.flatMap_singleton] at hpath
    have hself : u ∈ requiredPath available name := self_mem_requiredPath hu
    by_cases hback : d.name = name
    · -- the walk is back at its start
      obtain rfl : d = u := by
        rw [← hback, hdname, hd] at hu'
        exact Option.some.inj hu'
      obtain ⟨v, hv, hreach⟩ := reaches_of_mem_requiredPath hA h
      obtain rfl : d = v := Option.some.inj (hu.symm.trans hv)
      exact .inr ⟨hself, .inr hreach⟩
    have herase : (available.erase name).find? d.name = available.find? d.name := by
      rw [Index.find?_erase, if_neg hback]
    rw [hpath, List.mem_append, List.mem_singleton] at h
    rw [hpath]
    rcases h with h | rfl
    · -- further on, the order within the rest of the walk counts
      rcases ih hA' h with hnone | ⟨hmem, hbefore⟩
      · exact .inl (herase ▸ hnone)
      · exact .inr ⟨List.mem_append_left _ hmem,
          hbefore.imp_left fun hsub => hsub.trans (List.sublist_append_left _ _)⟩
    · -- the type at the start requires the one where the rest of the walk starts
      obtain rfl : dependency = m := Option.some.inj (hr.symm.trans hm)
      cases hfound : available.find? d.name with
      | none => exact .inl rfl
      | some e =>
        obtain rfl : d = e := by
          have he := hA _ _ hfound
          rw [hdname, hd] at he
          exact Option.some.inj he
        have hmem : d ∈ requiredPath (available.erase name) dependency := by
          refine self_mem_requiredPath ?_
          rw [← hdname, herase, hfound]
        exact .inr ⟨List.mem_append_left _ hmem,
          .inl (List.Sublist.append (List.singleton_sublist.mpr hmem) (List.Sublist.refl [t]))⟩

end Walk

end Catalog

/-! ### The list -/

/-- A list of first declarations, of each name at most one.  What a type requires is listed too,
and before it, unless it leads back to the type. -/
structure Arranged (r : Registry) (ts : List TypeDef) : Prop where
  nodup : (ts.map (·.name)).Nodup
  first : ∀ t ∈ ts, r.typeNamed t.name = some t
  behind : ∀ t ∈ ts, ∀ d, r.Requires t d → d ∈ ts ∧ ([d, t].Sublist ts ∨ r.Reaches d t)

namespace Arranged

variable {r : Registry} {listed : List TypeDef} {name : String} {t : TypeDef}

/-- Nothing at all is arranged: the start of the induction over the seeds. -/
theorem nil : Arranged r [] := ⟨List.nodup_nil, by simp, by simp⟩

/-- The first declaration of a listed name is listed. -/
theorem mem_of_mem_names (h : Arranged r listed) (ht : r.typeNamed name = some t)
    (hmem : name ∈ listed.map (·.name)) : t ∈ listed := by
  obtain ⟨u, hu, rfl⟩ := List.mem_map.mp hmem
  obtain rfl : t = u := Option.some.inj (ht.symm.trans (h.first u hu))
  exact hu

/-- Whatever a listed type leads to is listed. -/
theorem mem_of_reaches (h : Arranged r listed) {u : TypeDef} (hu : u ∈ listed)
    (hreach : r.Reaches u t) : t ∈ listed := by
  induction hreach with
  | refl => exact hu
  | tail _ hreq ih => exact (h.behind _ ih _ hreq).1

/-- The declared types that are not listed yet. -/
def unlisted (r : Registry) (listed : List TypeDef) : Index TypeDef :=
  ⟨(Catalog.ofRegistry r).types.entries.filter fun e => listed.all (·.name != e.1)⟩

/-- What is still unlisted is found as in the registry, and what is listed is not found at all. -/
theorem find?_unlisted (name : String) :
    (unlisted r listed).find? name
      = if name ∈ listed.map (·.name) then none else r.typeNamed name := by
  rw [unlisted, Index.find?_filter _ fun n => listed.all (·.name != n), find?_types]
  -- a listed name is filtered out, and any other is kept
  by_cases h : name ∈ listed.map (·.name)
  · rw [if_pos h, if_neg]
    obtain ⟨u, hu, rfl⟩ := List.mem_map.mp h
    intro hall
    simpa using List.all_eq_true.mp hall u hu
  · rw [if_neg h, if_pos]
    refine List.all_eq_true.mpr fun u hu => ?_
    rw [bne_iff_ne]
    exact fun hname => h (hname ▸ List.mem_map_of_mem hu)

/-- The definitions not yet listed are definitions of the registry under their own names. -/
theorem within_unlisted : Within r (unlisted r listed) := by
  intro name t ht
  rw [find?_unlisted] at ht
  split at ht
  · cases ht
  · exact ht

/-- **The step.**  A walk over what is not listed yet keeps the list arranged. -/
theorem listType (h : Arranged r listed) (name : String) :
    Arranged r ((Catalog.ofRegistry r).listType listed name) := by
  show Arranged r (listed ++ requiredPath (unlisted r listed) name)
  -- the walk only lists what was not listed
  have hfresh : ∀ t ∈ requiredPath (unlisted r listed) name,
      t.name ∉ listed.map (·.name) ∧ r.typeNamed t.name = some t := by
    intro t ht
    have hfind := mem_requiredPath within_unlisted ht
    rw [find?_unlisted] at hfind
    split at hfind
    · cases hfind
    · exact ⟨‹_›, hfind⟩
  refine ⟨?_, ?_, ?_⟩
  · rw [List.map_append]
    refine List.nodup_append'.mpr ⟨h.nodup, nodup_requiredPath within_unlisted, ?_⟩
    intro n hn hmem
    obtain ⟨t, ht, rfl⟩ := List.mem_map.mp hmem
    exact (hfresh t ht).1 hn
  · intro t ht
    rcases List.mem_append.mp ht with ht | ht
    · exact h.first t ht
    · exact (hfresh t ht).2
  · intro t ht d hreq
    rcases List.mem_append.mp ht with ht | ht
    · obtain ⟨hd, hbefore⟩ := h.behind t ht d hreq
      exact ⟨List.mem_append_left _ hd,
        hbefore.imp_left fun hsub => hsub.trans (List.sublist_append_left _ _)⟩
    · rcases behind_requiredPath within_unlisted ht hreq with hnone | ⟨hd, hbefore⟩
      · -- not available means listed already, since `d` is declared
        obtain ⟨m, -, hm⟩ := Registry.requires_iff.mp hreq
        obtain rfl := name_of_find? hm
        have hlisted : d.name ∈ listed.map (·.name) := by
          by_contra hnot
          rw [find?_unlisted, if_neg hnot, hm] at hnone
          cases hnone
        have hd : d ∈ listed := h.mem_of_mem_names hm hlisted
        exact ⟨List.mem_append_left _ hd,
          .inl (List.Sublist.append (List.singleton_sublist.mpr hd)
            (List.singleton_sublist.mpr ht))⟩
      · exact ⟨List.mem_append_right _ hd,
          hbefore.imp_left fun hsub => hsub.trans (List.sublist_append_right _ _)⟩

/-- A walk lists what its start leads to. -/
theorem mem_listType (h : Arranged r listed) {u : TypeDef} (hu : r.typeNamed name = some u) :
    t ∈ (Catalog.ofRegistry r).listType listed name ↔ t ∈ listed ∨ r.Reaches u t := by
  have hstep := h.listType name
  have hsplit : (Catalog.ofRegistry r).listType listed name
      = listed ++ requiredPath (unlisted r listed) name := rfl
  rw [hsplit] at hstep ⊢
  constructor
  · intro ht
    refine (List.mem_append.mp ht).imp_right fun ht => ?_
    obtain ⟨v, hv, hreach⟩ := reaches_of_mem_requiredPath within_unlisted ht
    obtain rfl : u = v := Option.some.inj (hu.symm.trans (within_unlisted _ _ hv))
    exact hreach
  · rintro (ht | hreach)
    · exact List.mem_append_left _ ht
    · -- the start is listed, now or before, and the list is closed
      refine hstep.mem_of_reaches ?_ hreach
      by_cases hlisted : name ∈ listed.map (·.name)
      · exact List.mem_append_left _ (h.mem_of_mem_names hu hlisted)
      · refine List.mem_append_right _ (self_mem_requiredPath ?_)
        rw [find?_unlisted, if_neg hlisted, hu]

/-- **The run.**  Walks from first declarations, one after the other, keep the list arranged and
list what they lead to. -/
theorem foldl_listType (h : Arranged r listed) {seeds : List TypeDef}
    (hseeds : ∀ u ∈ seeds, r.typeNamed u.name = some u) :
    Arranged r ((seeds.map (·.name)).foldl (Catalog.ofRegistry r).listType listed)
      ∧ ∀ t, t ∈ (seeds.map (·.name)).foldl (Catalog.ofRegistry r).listType listed
          ↔ t ∈ listed ∨ ∃ u ∈ seeds, r.Reaches u t := by
  induction seeds generalizing listed with
  | nil => exact ⟨h, by simp⟩
  | cons u seeds ih =>
    rw [List.map_cons, List.foldl_cons]
    have hu : r.typeNamed u.name = some u := hseeds u List.mem_cons_self
    -- one walk, and then the others on the longer list
    obtain ⟨harr, hmem⟩ := ih (h.listType u.name) fun v hv => hseeds v (List.mem_cons_of_mem u hv)
    refine ⟨harr, fun t => ?_⟩
    rw [hmem t, h.mem_listType hu, or_assoc, List.exists_mem_cons_iff]

end Arranged

/-! ### The starts of the walks -/

section Seeds

variable {r : Registry} {s : NameSelection}

/-- The base types of a command are the definitions named by its return type and its parameters. -/
theorem mem_baseTypes {c : Command} {t : TypeDef} :
    t ∈ (ofRegistry r).baseTypes c
      ↔ ∃ base ∈ c.returnBase.toList ++ c.params.map (·.base), r.typeNamed base = some t := by
  rw [baseTypes, List.mem_filterMap]
  simp only [find?_types]

/-- Commands can be looked up exactly when all of them are declared. -/
theorem exists_commandsIn_eq_ok : (∃ cs, (ofRegistry r).commandsIn s = .ok cs)
    ↔ ∀ name ∈ s.commands, ∃ c, r.commandNamed name = some c := by
  simp only [commandsIn, exists_mapM_eq_ok, command_eq_ok, NameSet.mem_def]

/-- The only failure is a command of the set that the registry does not declare. -/
theorem commandsIn_eq_error {e : RegistryError} (h : (ofRegistry r).commandsIn s = .error e) :
    ∃ name ∈ s.commands, r.commandNamed name = none ∧ e = .notFound .command name := by
  obtain ⟨name, hname, h⟩ := exists_of_mapM_eq_error h
  rw [command, find?_commands, found_eq_error] at h
  exact ⟨name, hname, h⟩

/-- The starts can be told exactly when everything that is named is declared. -/
theorem exists_seedTypes_eq_ok :
    (∃ seeds, (ofRegistry r).seedTypes s = .ok seeds) ↔ r.Declares s := by
  have htypes : (∃ ts, s.types.names.mapM (ofRegistry r).typeDef = .ok ts)
      ↔ ∀ name ∈ s.types, ∃ t, r.typeNamed name = some t := by
    simp only [exists_mapM_eq_ok, typeDef_eq_ok, NameSet.mem_def]
  rw [Registry.Declares, ← htypes, ← exists_commandsIn_eq_ok, seedTypes]
  simp only [bind_eq_ok]
  -- both look-ups come first, and nothing fails behind them
  constructor
  · rintro ⟨_, ts, hts, cs, hcs, _⟩
    exact ⟨⟨ts, hts⟩, cs, hcs⟩
  · rintro ⟨⟨ts, hts⟩, cs, hcs⟩
    exact ⟨_, ts, hts, cs, hcs, rfl⟩

/-- The seeds are the definitions the set names, by itself or through a command. -/
theorem mem_seedTypes {seeds : List TypeDef} (h : (ofRegistry r).seedTypes s = .ok seeds)
    {t : TypeDef} : t ∈ seeds ↔ r.IsSeed s t := by
  rw [seedTypes] at h
  simp only [bind_eq_ok] at h
  obtain ⟨named, hnamed, cs, hcs, h⟩ := h
  obtain rfl := Except.ok.inj h
  rw [List.mem_append, List.mem_flatMap, mem_of_mapM_eq_ok hnamed, Registry.IsSeed]
  simp only [mem_of_mapM_eq_ok hcs, mem_baseTypes, typeDef_eq_ok, command_eq_ok, NameSet.mem_def]
  -- the two sides nest command and base type differently
  refine or_congr_right ⟨?_, ?_⟩
  · rintro ⟨c, ⟨name, hname, hc⟩, hbase⟩
    exact ⟨name, hname, c, hc, hbase⟩
  · rintro ⟨name, hname, c, hc, hbase⟩
    exact ⟨c, ⟨name, hname, hc⟩, hbase⟩

/-- Only a name that is not declared keeps the starts from being told. -/
theorem seedTypes_eq_error {e : RegistryError} (h : (ofRegistry r).seedTypes s = .error e) :
    (∃ name ∈ s.types, r.typeNamed name = none ∧ e = .notFound .type name)
      ∨ ∃ name ∈ s.commands, r.commandNamed name = none ∧ e = .notFound .command name := by
  rw [seedTypes] at h
  simp only [bind_eq_error] at h
  obtain h | ⟨_, _, h | ⟨_, _, h⟩⟩ := h
  · obtain ⟨name, hname, h⟩ := exists_of_mapM_eq_error h
    rw [typeDef, find?_types, found_eq_error] at h
    exact .inl ⟨name, hname, h⟩
  · exact .inr (commandsIn_eq_error h)
  · cases h

/-- Every start is a first declaration. -/
theorem Registry.IsSeed.typeNamed {t : TypeDef} (h : r.IsSeed s t) :
    r.typeNamed t.name = some t := by
  rcases h with ⟨_, _, ht⟩ | ⟨_, _, _, _, _, _, ht⟩
  · rwa [name_of_find? ht]
  · rwa [name_of_find? ht]

end Seeds

/-! ### The types of a selection -/

section Listing

variable {r : Registry} {s : NameSelection}

/-- Only the starts can fail to be told; the walks from them always come to an end. -/
theorem referencedTypes_eq (c : Catalog) (s : NameSelection) :
    c.referencedTypes s
      = (c.seedTypes s).map fun seeds => (seeds.map (·.name)).foldl c.listType [] := by
  rw [referencedTypes]
  cases c.seedTypes s <;> rfl

/-- The referenced types are found exactly if the registry declares what the set names. -/
theorem exists_referencedTypes_eq_ok :
    (∃ ts, (ofRegistry r).referencedTypes s = .ok ts) ↔ r.Declares s := by
  rw [referencedTypes_eq, exists_map_eq_ok, exists_seedTypes_eq_ok]

/-- What is listed for a selection are the types that the starts lead to. -/
theorem arranged_of_referencedTypes {ts : List TypeDef}
    (h : (ofRegistry r).referencedTypes s = .ok ts) :
    Arranged r ts ∧ ∀ t, t ∈ ts ↔ ∃ seed, r.IsSeed s seed ∧ r.Reaches seed t := by
  rw [referencedTypes_eq, map_eq_ok] at h
  obtain ⟨seeds, hseeds, rfl⟩ := h
  obtain ⟨harr, hmem⟩ := Arranged.nil.foldl_listType
    fun u hu => ((mem_seedTypes hseeds).mp hu).typeNamed
  refine ⟨harr, fun t => ?_⟩
  simp only [hmem, List.not_mem_nil, false_or, mem_seedTypes hseeds]

end Listing

/-- **The referenced types.**  When everything that a selection names is declared, its types are
the first declarations that the starts lead to, each name once.  A type stands behind a declared
one that it requires, unless that leads back to it.  Otherwise a name that is not declared is
reported. -/
theorem referencedTypes_spec (r : Registry) (s : NameSelection) :
    (r.Declares s →
      ∃ ts, (ofRegistry r).referencedTypes s = .ok ts
        ∧ (ts.map (·.name)).Nodup
        ∧ (∀ t ∈ ts, r.typeNamed t.name = some t)
        ∧ (∀ t, t ∈ ts ↔ ∃ seed, r.IsSeed s seed ∧ r.Reaches seed t)
        ∧ ∀ t ∈ ts, ∀ d, r.Requires t d → d ∈ ts ∧ ([d, t].Sublist ts ∨ r.Reaches d t))
    ∧ ((∃ kind name, (ofRegistry r).referencedTypes s = .error (.notFound kind name))
      ↔ ¬ r.Declares s)
    ∧ ∀ e, (ofRegistry r).referencedTypes s = .error e →
      (∃ name ∈ s.types, r.typeNamed name = none ∧ e = .notFound .type name)
        ∨ ∃ name ∈ s.commands, r.commandNamed name = none ∧ e = .notFound .command name := by
  -- an error is one of the seeds, as the walks have none
  have herror : ∀ e, (ofRegistry r).referencedTypes s = .error e →
      (ofRegistry r).seedTypes s = .error e := by
    intro e he
    rw [referencedTypes, bind_eq_error] at he
    obtain he | ⟨_, _, he⟩ := he
    · exact he
    · cases he
  refine ⟨fun hdeclared => ?_, ⟨?_, ?_⟩, fun e he => seedTypes_eq_error (herror e he)⟩
  · -- the run starts from an empty list, so all that is listed comes from the seeds
    obtain ⟨seeds, hseeds⟩ := exists_seedTypes_eq_ok.mpr hdeclared
    have hfirst : ∀ u ∈ seeds, r.typeNamed u.name = some u :=
      fun u hu => ((mem_seedTypes hseeds).mp hu).typeNamed
    obtain ⟨harr, hmem⟩ := Arranged.nil.foldl_listType hfirst
    refine ⟨_, bind_eq_ok.mpr ⟨seeds, hseeds, rfl⟩, harr.nodup, harr.first, fun t => ?_,
      harr.behind⟩
    simp only [hmem, List.not_mem_nil, false_or, mem_seedTypes hseeds]
  · rintro ⟨kind, name, he⟩ hdeclared
    obtain ⟨seeds, hseeds⟩ := exists_seedTypes_eq_ok.mpr hdeclared
    rw [herror _ he] at hseeds
    cases hseeds
  · intro hnot
    rw [← exists_seedTypes_eq_ok, not_ok_iff] at hnot
    obtain ⟨e, he⟩ := hnot
    have hresult : (ofRegistry r).referencedTypes s = .error e :=
      bind_eq_error.mpr (.inl he)
    rcases seedTypes_eq_error he with ⟨name, -, -, rfl⟩ | ⟨name, -, -, rfl⟩
    · exact ⟨_, _, hresult⟩
    · exact ⟨_, _, hresult⟩

/-- Types that require each other, one that requires another declared twice, and one that requires
what is not declared. -/
def entangled : Registry where
  types := [⟨"GLsync", "struct __GLsync;", some "GLhandle", none, none⟩,
    ⟨"GLhandle", "struct __GLhandle;", some "GLsync", none, none⟩,
    ⟨"GLuint", "typedef unsigned int GLuint;", some "khrplatform", none, none⟩,
    ⟨"khrplatform", "#include <KHR/khrplatform.h>", none, none, none⟩,
    ⟨"khrplatform", "", some "GLuint", none, none⟩,
    ⟨"GLenum", "typedef unsigned int GLenum;", some "stdint", none, none⟩]
  collections := []
  commands := [⟨"glIsSync", "GLuint", some "GLuint", none,
    [⟨"sync", "GLsync", false, 0, none, none, none⟩], "GL", none⟩]
  features := []

/-- The list for one command and one type, and the failure for a type that is not declared. -/
theorem referencedTypes_entangled :
    (∃ ts, (ofRegistry entangled).referencedTypes
          ⟨.ofList ["glIsSync"], .empty, .ofList ["GLenum"]⟩ = .ok ts
        ∧ ts.map (·.name) = ["GLenum", "khrplatform", "GLuint", "GLhandle", "GLsync"]
        ∧ ∀ t ∈ ts, ∀ d, entangled.Requires t d →
          d ∈ ts ∧ ([d, t].Sublist ts ∨ entangled.Reaches d t))
    ∧ ∃ kind name, (ofRegistry entangled).referencedTypes
          ⟨.empty, .empty, .ofList ["stdint"]⟩ = .error (.notFound kind name) := by
  constructor
  · have hdeclared : entangled.Declares ⟨.ofList ["glIsSync"], .empty, .ofList ["GLenum"]⟩ :=
      exists_seedTypes_eq_ok.mp ⟨_, rfl⟩
    obtain ⟨ts, hts, -, -, -, hbehind⟩ := (referencedTypes_spec entangled _).1 hdeclared
    refine ⟨ts, hts, ?_, hbehind⟩
    have hnames : ((ofRegistry entangled).referencedTypes
          ⟨.ofList ["glIsSync"], .empty, .ofList ["GLenum"]⟩).map (List.map (·.name))
        = .ok ["GLenum", "khrplatform", "GLuint", "GLhandle", "GLsync"] := by
      cbv
    rw [hts] at hnames
    exact Except.ok.inj hnames
  · refine (referencedTypes_spec entangled _).2.1.mpr fun hdeclared => ?_
    obtain ⟨t, ht⟩ := hdeclared.1 "stdint" (by decide)
    cases ht

end GLBindings
