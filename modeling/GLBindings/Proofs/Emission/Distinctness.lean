import GLBindings.Proofs.Code.Naming
import GLBindings.Proofs.Emission.Agreement

namespace GLBindings

open Naming

/-!
# Distinctness — names of C++ stay apart

A name of C++ is what is left of a name of the registry when its namespace is gone, its first letter
is small and it is no word of the language.  None of these steps keeps names apart by itself.

* `CppNaming.IsCommandName`, `CppNaming.IsConstantName` — the shapes that names in a registry have.
* `CppNaming.functionName_inj`, `CppNaming.enumeratorName_inj`, `CppNaming.paramName_inj` — names of
  these shapes stay apart.
* `nodup_wrappers`, `nodup_enumerators` — so no function is declared twice in a header, and no
  enumerator twice in an enumeration.
* `cppNames_apart` — all of it together.
-/

/-! ### Letters -/

section Letters

variable {c d : Char}

/-- Different capitals have different small letters. -/
theorem toLower_inj (hc : c.isUpper = true) (hd : d.isUpper = true) (h : c.toLower = d.toLower) :
    c = d := by
  have hnat : c.toNat + 32 = d.toNat + 32 := by rw [← toNat_toLower hc, ← toNat_toLower hd, h]
  exact Char.toNat_inj.mp (Nat.add_right_cancel hnat)

/-- A small letter is no underscore. -/
theorem toLower_ne_underscore (hc : c.isUpper = true) : c.toLower ≠ '_' := by
  intro h
  have hnat := toNat_toLower hc
  have hlow := (isUpper_iff_toNat.mp hc).1
  rw [h] at hnat
  have hunderscore : '_'.toNat = 95 := rfl
  -- the small letters all stand behind the underscore
  omega

/-- A capital of ASCII has one small letter. -/
theorem lowerOf_of_isUpper (hc : c.isUpper = true) : Text.lowerOf c = [c.toLower] := by
  have hhigh := (isUpper_iff_toNat.mp hc).2
  rw [Text.lowerOf, if_pos (by omega)]

end Letters

namespace CppNaming

/-! ### Names that stay apart -/

/-- `gl`, a capital letter, and more that does not end with an underscore. -/
def IsCommandName (name : String) : Prop :=
  ∃ c rest, name.toList = 'g' :: 'l' :: c :: rest ∧ c.isUpper = true
    ∧ name.toList.getLast? ≠ some '_'

/-- `GL_`, a capital letter or a digit, and more. -/
def IsConstantName (name : String) : Prop :=
  ∃ c rest, name.toList = 'G' :: 'L' :: '_' :: c :: rest ∧ (c.isUpper = true ∨ c.isDigit = true)

section Names

variable {a b : String}

/-- The function for a command of the common shape: the prefix goes, and the first letter is made
small. -/
theorem functionOf_eq {c : Char} {rest : List Char} (ha : a.toList = 'g' :: 'l' :: c :: rest)
    (hc : c.isUpper = true) : functionOf a = String.ofList (c.toLower :: rest) := by
  have hcarried : afterNamespace? "gl".toList a.toList = some (c :: rest) := by
    rw [ha]
    rfl
  have hne : c ≠ '_' := by
    rintro rfl
    cases hc
  -- no underscore is left to be taken off behind the prefix
  have hbare : (c :: rest).dropWhile (· == '_') = c :: rest :=
    List.dropWhile_cons_of_neg (by simpa using hne)
  rw [functionOf, stripNamespace_of_carried hcarried (by decide) (List.cons_ne_nil c rest),
    hbare, Text.decapitalize, String.toList_ofList, Text.decapitalizeChars, lowerOf_of_isUpper hc]
  rfl

/-- The enumerator for a constant of the common shape: the prefix goes with its underscore, and an
`e` stands in front. -/
theorem enumeratorOf_eq {c : Char} {rest : List Char}
    (ha : a.toList = 'G' :: 'L' :: '_' :: c :: rest) (hc : c.isUpper = true ∨ c.isDigit = true) :
    enumeratorOf a = "e" ++ String.ofList (c :: rest) := by
  have hcarried : afterNamespace? "GL".toList a.toList = some ('_' :: c :: rest) := by
    rw [ha]
    rfl
  have hne : c ≠ '_' := by
    rintro rfl
    rcases hc with hc | hc <;> cases hc
  have hbare : ('_' :: c :: rest).dropWhile (· == '_') = c :: rest := by
    rw [List.dropWhile_cons_of_pos rfl]
    exact List.dropWhile_cons_of_neg (by simpa using hne)
  rw [enumeratorOf, stripNamespace_of_carried hcarried (by decide) (List.cons_ne_nil _ _), hbare]

/-- Parameters that do not end with an underscore keep apart. -/
theorem paramName_inj (ha : a.toList.getLast? ≠ some '_') (hb : b.toList.getLast? ≠ some '_')
    (h : convention.paramName a = convention.paramName b) : a = b :=
  Convention.safeName_inj (fun _ => rfl) ha hb h

/-- **Functions keep apart** for commands of the common shape, keywords included. -/
theorem functionName_inj (ha : IsCommandName a) (hb : IsCommandName b)
    (h : convention.functionName a = convention.functionName b) : a = b := by
  obtain ⟨c, rest, hac, hc, haend⟩ := ha
  obtain ⟨d, more, hbd, hd, hbend⟩ := hb
  -- a function ends like its command, so that an underscore at the end tells a changed name
  have hend : ∀ {s : String} {c : Char} {rest : List Char}, s.toList = 'g' :: 'l' :: c :: rest →
      c.isUpper = true → s.toList.getLast? ≠ some '_' →
      (functionOf s).toList.getLast? ≠ some '_' := by
    intro s c rest hs hc hsend
    rw [functionOf_eq hs hc, String.toList_ofList]
    cases rest with
    | nil => simpa using toLower_ne_underscore hc
    | cons e rest =>
      rw [hs] at hsend
      exact hsend
  -- keywords aside, the functions themselves are the same
  have hfun : functionOf a = functionOf b :=
    Convention.safeName_inj (v := convention) (fun _ => rfl) (hend hac hc haend)
      (hend hbd hd hbend) h
  rw [functionOf_eq hac hc, functionOf_eq hbd hd, String.ofList_inj, List.cons.injEq] at hfun
  rw [← String.toList_inj, hac, hbd, toLower_inj hc hd hfun.1, hfun.2]

/-- The enumerator for a constant is no word of the language. -/
theorem enumeratorName_eq (ha : IsConstantName a) :
    convention.enumeratorName a = enumeratorOf a := by
  obtain ⟨c, rest, hac, hc⟩ := ha
  -- words that begin like an enumerator go on with a small letter
  have hwords : ∀ word ∈ keywords, word.toList.head? = some 'e' →
      word.toList[1]?.all (fun d => !(d.isUpper || d.isDigit)) = true := by
    decide
  have hlist : (enumeratorOf a).toList = 'e' :: c :: rest := by
    rw [enumeratorOf_eq hac hc, String.toList_append, String.toList_ofList, String.toList_ofList]
    rfl
  have hword : enumeratorOf a ∉ keywords := by
    intro hmem
    have hsmall : (!(c.isUpper || c.isDigit)) = true := by
      have hall := hwords _ hmem (by rw [hlist]; rfl)
      rwa [hlist] at hall
    rw [← Bool.or_eq_true] at hc
    rw [hc] at hsmall
    cases hsmall
  exact (Convention.safeName_eq convention _).trans (if_neg hword)

/-- **Enumerators keep apart** for constants of the common shape. -/
theorem enumeratorName_inj (ha : IsConstantName a) (hb : IsConstantName b)
    (h : convention.enumeratorName a = convention.enumeratorName b) : a = b := by
  -- no enumerator was changed, so what stands behind the prefix decides
  rw [enumeratorName_eq ha, enumeratorName_eq hb] at h
  obtain ⟨c, rest, hac, hc⟩ := ha
  obtain ⟨d, more, hbd, hd⟩ := hb
  rw [enumeratorOf_eq hac hc, enumeratorOf_eq hbd hd, String.append_right_inj, String.ofList_inj] at h
  rw [← String.toList_inj, hac, hbd, h]

end Names

end CppNaming

/-! ### Declarations -/

section Declarations

variable {r : Registry} {x : Context} {wrapping : CppHeader}

/-- Commands of the common shape get different functions. -/
theorem nodup_wrappers (hx : x.catalog = .ofRegistry r) (h : x.cppHeader = .ok wrapping)
    (hnames : ∀ name ∈ x.names.commands.names, CppNaming.IsCommandName name) :
    (wrapping.wrappers.map (·.name)).Nodup := by
  obtain ⟨gs, cs, -, hcs, -, hwrappers⟩ := cppHeader_eq_ok h
  rw [Context.commands, hx] at hcs
  obtain ⟨hselected, -⟩ := firsts_of_mapM_eq_ok (fun _ _ => Catalog.command_eq_ok.mp) hcs
  -- the wrappers are named after the selected commands
  have hmap : wrapping.wrappers.map (·.name)
      = x.names.commands.names.map CppNaming.convention.functionName := by
    rw [hwrappers, ← hselected, List.map_map, List.map_map]
    refine List.map_congr_left fun c _ => ?_
    rw [Function.comp_apply, Function.comp_apply, Wrapper.ofCommand]
  rw [hmap]
  refine List.Nodup.map_on (fun a ha b hb => ?_) x.names.commands.nodup
  exact CppNaming.functionName_inj (hnames a ha) (hnames b hb)

/-- Constants of the common shape get different enumerators in each enumeration. -/
theorem nodup_enumerators (hx : x.catalog = .ofRegistry r) (h : x.cppHeader = .ok wrapping)
    {e : EnumClass} (he : e ∈ wrapping.classes)
    (hnames : ∀ k ∈ r.constants, e.name ∈ k.groups → CppNaming.IsConstantName k.name) :
    (e.enumerators.map (·.name)).Nodup := by
  obtain ⟨gs, cs, hgs, hcs, hclasses, -⟩ := cppHeader_eq_ok h
  rw [hclasses] at he
  obtain ⟨g, hg, rfl⟩ := List.mem_map.mp he
  obtain ⟨-, hconstants⟩ := (groups_eq_ok hx hcs hgs).2 g hg
  have hmap : ((EnumClass.ofGroup g).enumerators).map (·.name)
      = (g.constants.map (·.name)).map CppNaming.convention.enumeratorName := by
    show (g.constants.map EnumClass.enumeratorOf).map (·.name) = _
    rw [List.map_map, List.map_map]
    refine List.map_congr_left fun k _ => ?_
    rw [Function.comp_apply, Function.comp_apply, EnumClass.enumeratorOf]
  -- the constants of the group have the common shape
  have hshape : ∀ name ∈ g.constants.map (·.name), CppNaming.IsConstantName name := by
    intro name hname
    rw [hconstants, map_firstOfEach, List.mem_eraseDups] at hname
    obtain ⟨k, hk, rfl⟩ := List.mem_map.mp hname
    obtain ⟨hmem, hgroup⟩ := List.mem_filter.mp hk
    exact hnames k hmem (Catalog.inGroup_iff.mp hgroup)
  rw [hmap]
  refine List.Nodup.map_on (fun a ha b hb => ?_) ?_
  · exact CppNaming.enumeratorName_inj (hshape a ha) (hshape b hb)
  · rw [hconstants, map_firstOfEach]
    exact nodup_eraseDups _

end Declarations

/-! ### All of it together -/

open CppNaming in
/-- **Names of C++.**  None is a word of the language, whatever the name in the registry is, and
taking its namespace off cuts no character apart.  Commands that are `gl` and a capital letter in
front of the rest, and do not end with an underscore, get different functions; constants that are
`GL_` and a capital letter or digit in front of the rest get different enumerators; and parameters
that do not end with an underscore stay different.  So a header for such commands declares no function
twice, and no enumerator twice in an enumeration of such constants. -/
theorem cppNames_apart :
    (∀ name, convention.functionName name ∉ keywords ∧ convention.enumeratorName name ∉ keywords
      ∧ convention.paramName name ∉ keywords)
    ∧ (∀ name, ∃ command constant,
        stripBytes? name "gl" = some command ∧ stripBytes? name "GL" = some constant
        ∧ convention.functionName name = convention.safeName (Text.decapitalize command)
        ∧ convention.enumeratorName name = convention.safeName ("e" ++ constant)
        ∧ convention.paramName name = convention.safeName name)
    ∧ (∀ a b, IsCommandName a → IsCommandName b → a ≠ b →
        convention.functionName a ≠ convention.functionName b)
    ∧ (∀ a b, IsConstantName a → IsConstantName b → a ≠ b →
        convention.enumeratorName a ≠ convention.enumeratorName b)
    ∧ (∀ a b : String, a.toList.getLast? ≠ some '_' → b.toList.getLast? ≠ some '_' → a ≠ b →
        convention.paramName a ≠ convention.paramName b)
    ∧ ∀ (r : Registry) (selection : Selection) (names : NameSelection) (stem : Stem)
        (wrapping : CppHeader),
        (⟨.ofRegistry r, selection, names, stem⟩ : Context).cppHeader = .ok wrapping →
        ((∀ name ∈ names.commands.names, IsCommandName name) →
          (wrapping.wrappers.map (·.name)).Nodup)
        ∧ ∀ e ∈ wrapping.classes,
          (∀ k ∈ r.constants, e.name ∈ k.groups → IsConstantName k.name) →
            (e.enumerators.map (·.name)).Nodup := by
  have hsafe : ∀ name, convention.safeName name ∉ keywords :=
    Convention.safeName_not_reserved escape_not_keyword
  refine ⟨fun name => ⟨hsafe _, hsafe _, hsafe _⟩, fun name => ?_,
    fun a b ha hb hne h => hne (functionName_inj ha hb h),
    fun a b ha hb hne h => hne (enumeratorName_inj ha hb h),
    fun a b ha hb hne h => hne (paramName_inj ha hb h),
    fun r selection names stem wrapping h => ⟨nodup_wrappers rfl h, fun e he =>
      nodup_enumerators rfl h he⟩⟩
  exact ⟨_, _, stripBytes?_eq name "gl", stripBytes?_eq name "GL", rfl, rfl, rfl⟩

open CppNaming in
/-- A function that is a word of the language, an enumerator that begins with a digit, and a header
for two commands whose parameters share a group. -/
theorem cppNames_apart_sharing :
    convention.functionName "glNew" ≠ convention.functionName "glNewList"
      ∧ convention.enumeratorName "GL_2D" ≠ convention.enumeratorName "GL_2X"
      ∧ convention.paramName "class" ≠ convention.paramName "klass"
      ∧ ∃ wrapping, sharingContext.cppHeader = .ok wrapping
        ∧ wrapping.wrappers.map (·.name) = ["polygonMode", "cullFace"]
        ∧ (wrapping.wrappers.map (·.name)).Nodup
        ∧ wrapping.classes.map (·.name) = ["TriangleFace"]
        ∧ ∀ e ∈ wrapping.classes, (e.enumerators.map (·.name)).Nodup := by
  obtain ⟨-, -, hfunctions, henumerators, hparams, hheader⟩ := cppNames_apart
  obtain ⟨wrapping, hwrapping, hwrappers, hclasses⟩ : ∃ wrapping,
      sharingContext.cppHeader = .ok wrapping
        ∧ wrapping.wrappers.map (·.name) = ["polygonMode", "cullFace"]
        ∧ wrapping.classes.map (·.name) = ["TriangleFace"] :=
    ⟨_, rfl, by decide, by decide⟩
  obtain ⟨hdistinct, heach⟩ := hheader _ _ _ _ _ hwrapping
  refine ⟨?_, ?_, hparams "class" "klass" (by decide) (by decide) (by decide), wrapping, hwrapping,
    hwrappers, hdistinct ?_, hclasses, fun e he => heach e he ?_⟩
  · exact hfunctions "glNew" "glNewList" ⟨'N', _, rfl, rfl, by decide⟩ ⟨'N', _, rfl, rfl, by decide⟩
      (by decide)
  · exact henumerators "GL_2D" "GL_2X" ⟨'2', _, rfl, .inr rfl⟩ ⟨'2', _, rfl, .inr rfl⟩ (by decide)
  · intro name hname
    have hmem : name = "glPolygonMode" ∨ name = "glCullFace" := by
      simpa [sharingNames, NameSet.names_ofList, List.eraseDups_cons] using hname
    rcases hmem with rfl | rfl
    · exact ⟨'P', _, rfl, rfl, by decide⟩
    · exact ⟨'C', _, rfl, rfl, by decide⟩
  · intro k hk _
    have hmem : k.name = "GL_FRONT" ∨ k.name = "GL_BACK" := by
      have hall : ∀ k ∈ sharing.constants, k.name = "GL_FRONT" ∨ k.name = "GL_BACK" := by decide
      exact hall k hk
    rcases hmem with h | h
    · exact ⟨'F', _, by rw [h]; rfl, .inl rfl⟩
    · exact ⟨'B', _, by rw [h]; rfl, .inl rfl⟩

end GLBindings
