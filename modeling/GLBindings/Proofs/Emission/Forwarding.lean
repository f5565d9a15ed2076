import GLBindings.Proofs.Code.Naming
import GLBindings.Proofs.Emission.Agreement

namespace GLBindings

/-!
# Forwarding — inline functions call with the types of C

The type of a parameter is written three times: in the type of the pointer to the command, in the
declaration of the inline function, and in the cast of what is handed on.  Each time it is put
together from the parts of the parameter.  This file says how the three texts go together.

* `Forwards` — for one parameter: what is declared and what is handed on, against the text in the
  type of the pointer; `forwards_ofParameter`.
* `Wraps` — the same for all parameters in order, with the code around them; `wraps_ofCommand`.
* `paramName_eq`, `paramName_not_keyword` — safe names.
* `wraps_of_headers` — the inline functions of one header, against the pointers of the other.
* `wrappers_forward` — all of it together.
-/

/-! ### One parameter -/

/-- The name of a parameter in an inline function. -/
def safeName (q : Parameter) : String :=
  CppNaming.convention.paramName q.name

/-- What is declared and handed on for a parameter, against its text in the type of the pointer. -/
inductive Forwards (hasClass : String → Bool) (q : Parameter) (text declaration argument : String) :
    Prop
  /-- Without an enumeration for its group, only the name may differ. -/
  | plain {type : String} (hgroup : ∀ g, q.groupName = some g → hasClass g = false)
      (htext : text = type ++ q.name)
      (hdeclaration : declaration = type ++ safeName q)
      (hargument : argument = safeName q)
  /-- A value of an enumeration is cast to the base type. -/
  | value {g : String} (hgroup : q.groupName = some g) (hclass : hasClass g = true)
      (hvalue : q.isPointer = false)
      (htext : text = Code.constness q.isConst ++ q.base ++ " " ++ q.name)
      (hdeclaration : declaration = Code.constness q.isConst ++ g ++ " " ++ safeName q)
      (hargument : argument = "static_cast<" ++ q.base ++ ">(" ++ safeName q ++ ")")
  /-- A pointer to values of an enumeration is cast to the type that the pointer has in C. -/
  | pointer {g target : String} (hgroup : q.groupName = some g) (hclass : hasClass g = true)
      (hpointer : q.isPointer = true)
      (htext : text
        = Code.constness q.isConst ++ q.base ++ " " ++ Code.stars q.indirection ++ q.name)
      (hdeclaration : declaration
        = Code.constness q.isConst ++ g ++ " " ++ Code.stars q.indirection ++ safeName q)
      (htarget : text = target ++ q.name)
      (hargument : argument = "reinterpret_cast<" ++ target ++ ">(" ++ safeName q ++ ")")

/-- The name is behind the type, whatever it is. -/
theorem declaration_eq (isConst : Bool) (base : String) (n : Nat) (name : String) :
    Code.declaration isConst base n name = Code.declaration isConst base n "" ++ name := by
  rw [Code.declaration, Code.declaration, String.append_empty]

/-- A value has no asterisks. -/
theorem declaration_zero (isConst : Bool) (base name : String) :
    Code.declaration isConst base 0 name = Code.constness isConst ++ base ++ " " ++ name := by
  rw [Code.declaration, Code.stars, List.replicate_zero, String.ofList_nil, String.append_empty]

/-- The type that a pointer is cast to is put together on its own, and comes to the text that a
declaration has in front of the name. -/
theorem argument_of_pointer {p : WrapperParam} {g : String} (hgroup : p.group = some g)
    (hpointer : p.indirection ≠ 0) :
    p.argument = "reinterpret_cast<" ++ Code.declaration p.isConst p.base p.indirection ""
      ++ ">(" ++ p.name ++ ")" := by
  have hcast : p.argument = "reinterpret_cast<" ++ Code.constness p.isConst ++ p.base ++ " "
      ++ Code.stars p.indirection ++ ">(" ++ p.name ++ ")" := by
    rw [WrapperParam.argument, hgroup]
    exact if_neg hpointer
  rw [hcast, Code.declaration, String.append_empty]
  simp only [String.append_assoc]

/-- **One parameter.**  Whether its group has an enumeration, and whether it is a pointer, decides
how it is forwarded. -/
theorem forwards_ofParameter (hasClass : String → Bool) (q : Parameter) :
    Forwards hasClass q (Pointer.paramText q) (WrapperParam.ofParameter hasClass q).declaration
      (WrapperParam.ofParameter hasClass q).argument := by
  -- what is declared and handed on is decided by the group that is left
  have hfields : (WrapperParam.ofParameter hasClass q).group = q.groupName.filter hasClass := rfl
  cases hgroup : q.groupName.filter hasClass with
  | none =>
    rw [hgroup] at hfields
    refine .plain ?_ (declaration_eq _ _ _ _) ?_ ?_
    · intro g hg
      rw [hg, Option.filter_some] at hgroup
      simpa using hgroup
    · rw [WrapperParam.declaration, hfields, declaration_eq]
      rfl
    · rw [WrapperParam.argument, hfields]
      rfl
  | some g =>
    rw [hgroup] at hfields
    -- the group is left, so it has an enumeration
    obtain ⟨hg, hclass⟩ := Option.filter_eq_some_iff.mp hgroup
    by_cases hzero : q.indirection = 0
    · have hvalue : (WrapperParam.ofParameter hasClass q).indirection = 0 := hzero
      refine .value hg hclass (by simp [Parameter.isPointer, hzero]) ?_ ?_ ?_
      · rw [Pointer.paramText, hzero, declaration_zero]
      · rw [WrapperParam.declaration, hfields, hvalue, declaration_zero]
        rfl
      · rw [WrapperParam.argument, hfields]
        exact if_pos hvalue
    · have hpointer : (WrapperParam.ofParameter hasClass q).indirection ≠ 0 := hzero
      refine .pointer hg hclass (decide_eq_true (Nat.pos_of_ne_zero hzero)) rfl ?_
        (declaration_eq _ _ _ _) ?_
      · rw [WrapperParam.declaration, hfields]
        rfl
      · exact argument_of_pointer hfields hpointer

/-! ### Safe names -/

/-- A word of the language gets an underscore behind it, and other names stay as they are. -/
theorem paramName_eq (name : String) : CppNaming.convention.paramName name
    = if name ∈ CppNaming.keywords then name ++ "_" else name :=
  Naming.Convention.safeName_eq CppNaming.convention name

/-- With an underscore behind it, no word of the language is another one. -/
theorem paramName_not_keyword (name : String) :
    CppNaming.convention.paramName name ∉ CppNaming.keywords :=
  Naming.Convention.safeName_not_reserved CppNaming.escape_not_keyword name

/-! ### All parameters -/

/-- An inline function, against the pointer to the command that it calls. -/
structure Wraps (hasClass : String → Bool) (c : Command) (p : Pointer) (w : Wrapper) : Prop where
  /-- There is one parameter for each parameter of the command. -/
  length : p.params.length = c.params.length ∧ w.params.length = c.params.length
  /-- Parameters in the same place belong together. -/
  forwards : ∀ (i : Nat) (q : Parameter), c.params[i]? = some q → ∃ text param,
    p.params[i]? = some text ∧ w.params[i]? = some param
      ∧ Forwards hasClass q text (WrapperParam.declaration param) (WrapperParam.argument param)
  /-- All are declared, and all are handed on. -/
  code : ∃ call body, w.fragments
      = [.block ("inline " ++ p.returnType ++ " " ++ w.name ++ "("
        ++ ", ".intercalate (w.params.map WrapperParam.declaration) ++ ") \x7b")
        [.line body] (some "\x7d")]
    ∧ call = p.name ++ "(" ++ ", ".intercalate (w.params.map WrapperParam.argument) ++ ");"
    ∧ (body = "return " ++ call ↔ p.returnType ≠ "void")
    ∧ (body = call ↔ p.returnType = "void")

/-- What is returned is not written like what is only called. -/
theorem return_append_ne (call : String) : "return " ++ call ≠ call := by
  intro h
  have hlength := congrArg String.length h
  rw [String.length_append] at hlength
  exact absurd hlength (by simp)

/-- **One command.**  Its wrapper goes with its pointer, whatever groups have an enumeration. -/
theorem wraps_ofCommand (hasClass : String → Bool) (c : Command) :
    Wraps hasClass c (Pointer.ofCommand c) (Wrapper.ofCommand hasClass c) := by
  constructor
  case length => exact ⟨List.length_map _, List.length_map _⟩
  case forwards =>
    intro i q hq
    refine ⟨Pointer.paramText q, WrapperParam.ofParameter hasClass q, ?_, ?_,
      forwards_ofParameter hasClass q⟩
    · rw [Pointer.ofCommand, List.getElem?_map, hq, Option.map_some]
    · rw [Wrapper.ofCommand, List.getElem?_map, hq, Option.map_some]
  case code =>
    refine ⟨_, (Wrapper.ofCommand hasClass c).call, rfl, rfl, ?_⟩
    have htype : (Wrapper.ofCommand hasClass c).returnType = (Pointer.ofCommand c).returnType := rfl
    rw [Wrapper.call, htype]
    -- the two forms of the call differ, so either tells whether something is returned
    by_cases hvoid : (Pointer.ofCommand c).returnType = "void"
    · rw [if_pos hvoid]
      exact ⟨iff_of_false (return_append_ne _).symm (not_not.mpr hvoid), iff_of_true rfl hvoid⟩
    · rw [if_neg hvoid]
      exact ⟨iff_of_true rfl hvoid, iff_of_false (return_append_ne _) hvoid⟩

/-! ### Two headers -/

/-- The header for C++ has one inline function for each pointer of the header for C, in the same
place, and both are made from the same command. -/
theorem wraps_of_headers {x : Context} {header : CHeader} {wrapping : CppHeader}
    (hheader : x.cHeader = .ok header) (hwrapping : x.cppHeader = .ok wrapping) :
    ∃ cs, x.commands = .ok cs ∧ header.pointers.length = cs.length
      ∧ wrapping.wrappers.length = cs.length
      ∧ ∀ (i : Nat) (c : Command), cs[i]? = some c → ∃ p w, header.pointers[i]? = some p
        ∧ wrapping.wrappers[i]? = some w ∧ Wraps (wrapping.classes.map (·.name)).contains c p w := by
  obtain ⟨cs, -, hcs, -, hpointers, -⟩ := cHeader_eq_ok hheader
  obtain ⟨gs, cs', -, hcs', hclasses, hwrappers⟩ := cppHeader_eq_ok hwrapping
  -- both headers look up the same commands
  obtain rfl : cs = cs' := Except.ok.inj (hcs.symm.trans hcs')
  -- the groups with an enumeration are those that the parameters were told of
  have hnames : wrapping.classes.map (·.name) = gs.map (·.name) := by
    rw [hclasses, List.map_map]
    rfl
  refine ⟨cs, hcs, by rw [hpointers, List.length_map], by rw [hwrappers, List.length_map], ?_⟩
  intro i c hc
  refine ⟨_, _, ?_, ?_, wraps_ofCommand _ c⟩
  · rw [hpointers, List.getElem?_map, hc, Option.map_some]
  · rw [hwrappers, List.getElem?_map, hc, hnames, Option.map_some]

/-- **Inline functions forward with the types of C.**  Whatever groups have an enumeration, the inline
function for a command declares one parameter and hands on one argument for each parameter of the
command, in order, and returns the call exactly when there is something to return.  With the name made
safe, a parameter is declared as the pointer to the command has it, but for an enumeration in place of
its base type; then what is handed on is cast back, to the base type or, for a pointer, to the very
text that is in front of the name in the type of the pointer to the command.  The two headers of a
selection go together so, function by function. -/
theorem wrappers_forward :
    (∀ (hasClass : String → Bool) (c : Command),
      Wraps hasClass c (Pointer.ofCommand c) (Wrapper.ofCommand hasClass c))
    ∧ (∀ q, safeName q = (if q.name ∈ CppNaming.keywords then q.name ++ "_" else q.name)
      ∧ safeName q ∉ CppNaming.keywords)
    ∧ ∀ (x : Context) (header : CHeader) (wrapping : CppHeader), x.cHeader = .ok header →
      x.cppHeader = .ok wrapping → ∃ cs, x.commands = .ok cs ∧ header.pointers.length = cs.length
        ∧ wrapping.wrappers.length = cs.length
        ∧ ∀ (i : Nat) (c : Command), cs[i]? = some c → ∃ p w, header.pointers[i]? = some p
          ∧ wrapping.wrappers[i]? = some w
          ∧ Wraps (wrapping.classes.map (·.name)).contains c p w :=
  ⟨wraps_ofCommand, fun q => ⟨paramName_eq q.name, paramName_not_keyword q.name⟩,
    fun _ _ _ => wraps_of_headers⟩

/-- A value, a pointer to constants whose name is a word of the language, and a pointer without an
enumeration. -/
def threeParameters : Command :=
  ⟨"glGet", "const GLubyte *", some "GLubyte", none, [
    ⟨"pname", "GLenum", false, 0, none, some "GetPName", none⟩,
    ⟨"class", "GLenum", true, 1, none, some "GetPName", none⟩,
    ⟨"data", "void", true, 2, none, some "Data", none⟩], "GL", none⟩

/-- Each of them is forwarded in its way. -/
theorem wrappers_forward_three :
    Wraps (· == "GetPName") threeParameters (Pointer.ofCommand threeParameters)
        (Wrapper.ofCommand (· == "GetPName") threeParameters)
      ∧ (Pointer.ofCommand threeParameters).params
        = ["GLenum pname", "const GLenum *class", "const void **data"]
      ∧ (Wrapper.ofCommand (· == "GetPName") threeParameters).signature
        = "inline const GLubyte * get(GetPName pname, const GetPName *class_, const void **data) \x7b"
      ∧ (Wrapper.ofCommand (· == "GetPName") threeParameters).call
        = "return glGet(static_cast<GLenum>(pname), reinterpret_cast<const GLenum *>(class_), data);"
      ∧ ∃ header wrapping cs, sharingContext.cHeader = .ok header
        ∧ sharingContext.cppHeader = .ok wrapping ∧ sharingContext.commands = .ok cs
        ∧ wrapping.wrappers.length = cs.length := by
  obtain ⟨hwraps, -, hheaders⟩ := wrappers_forward
  obtain ⟨header, hheader⟩ : ∃ header, sharingContext.cHeader = .ok header := ⟨_, rfl⟩
  obtain ⟨wrapping, hwrapping⟩ : ∃ wrapping, sharingContext.cppHeader = .ok wrapping := ⟨_, rfl⟩
  obtain ⟨cs, hcs, -, hlength, -⟩ := hheaders sharingContext header wrapping hheader hwrapping
  exact ⟨hwraps _ _, by decide, by decide, by decide, header, wrapping, cs, hheader, hwrapping, hcs,
    hlength⟩

end GLBindings
