import GLBindings.Code.Naming
import GLBindings.Proofs.Text.Position

namespace GLBindings.Naming

open GLBindings.Text

/-!
# Naming — where names are cut, and how words of a language are avoided

A namespace is a number of bytes at the start of a name, and what is behind them need not begin with a
character.  It does when the bytes are the namespace in some letter case.

* `afterNamespace?_eq_some` — a namespace matches the characters that it is the same as in lower case.
* `cutAt?`, `stripBytes?` — the cut by bytes, which fails inside a character; `stripBytes?_eq` — the
  check in front of it makes sure that it does not.
* `Convention.safeName_not_reserved`, `Convention.safeName_inj` — safe names are no words of the
  language, and stay apart unless they end like one that was changed.
-/

/-! ### Letters -/

section Letters

variable {c : Char}

/-- Capitals are a range of ASCII. -/
theorem isUpper_iff_toNat : c.isUpper = true ↔ 65 ≤ c.toNat ∧ c.toNat ≤ 90 :=
  decide_eq_true_iff

/-- Small letters stand behind the capitals in ASCII, always by the same distance. -/
theorem toNat_toLower (hc : c.isUpper = true) : c.toLower.toNat = c.toNat + 32 := by
  obtain ⟨hlow, hhigh⟩ := isUpper_iff_toNat.mp hc
  -- the library makes a letter small by a sum of 32 bits, which does not wrap around
  have hrange : c.val ≥ 'A'.val ∧ c.val ≤ 'Z'.val := ⟨hlow, hhigh⟩
  have hlower : c.toLower.toNat = (c.val + ('a'.val - 'A'.val)).toNat :=
    congrArg Char.toNat (dif_pos hrange)
  rw [hlower]
  show (c.toNat + 32) % 2 ^ 32 = c.toNat + 32
  omega

/-- Nothing else changes when it is made small. -/
theorem toLower_of_not_isUpper (hc : ¬ c.isUpper = true) : c.toLower = c :=
  dif_neg fun hrange => hc (isUpper_iff_toNat.mpr hrange)

/-- A character of ASCII takes one byte. -/
theorem utf8Size_of_ascii (hc : c.toNat ≤ 127) : c.utf8Size = 1 :=
  Char.utf8Size_eq_one_iff.mpr (UInt32.le_iff_toNat_le.mpr hc)

/-- Letters of ASCII have one byte in either case. -/
theorem utf8Size_toLower (c : Char) : c.toLower.utf8Size = c.utf8Size := by
  by_cases hc : c.isUpper = true
  · have hhigh := (isUpper_iff_toNat.mp hc).2
    have hlower := toNat_toLower hc
    rw [utf8Size_of_ascii (c := c.toLower) (by omega), utf8Size_of_ascii (by omega)]
  · rw [toLower_of_not_isUpper hc]

end Letters

/-! ### Namespaces -/

/-- The namespace is there in some letter case. -/
theorem afterNamespace?_eq_some {space name rest : List Char} :
    afterNamespace? space name = some rest
      ↔ ∃ head, name = head ++ rest ∧ head.map Char.toLower = space.map Char.toLower := by
  induction space generalizing name with
  -- an empty namespace is in front of every name
  | nil =>
    rw [afterNamespace?, Option.some.injEq]
    constructor
    · rintro rfl
      exact ⟨[], rfl, rfl⟩
    · rintro ⟨head, rfl, hhead⟩
      rw [List.map_eq_nil_iff.mp hhead, List.nil_append]
  | cons n space ih =>
    cases name with
    | nil =>
      refine iff_of_false (by simp [afterNamespace?]) ?_
      rintro ⟨head, hname, hhead⟩
      obtain ⟨rfl, -⟩ := List.append_eq_nil_iff.mp hname.symm
      cases hhead
    | cons c name =>
      rw [afterNamespace?]
      -- letters are compared one by one, as long as both have one
      by_cases hc : n.toLower = c.toLower
      · rw [if_pos hc, ih]
        constructor
        · rintro ⟨head, rfl, hhead⟩
          exact ⟨c :: head, rfl, by rw [List.map_cons, List.map_cons, hhead, hc]⟩
        · rintro ⟨head, hname, hhead⟩
          cases head with
          | nil => cases hhead
          | cons d head =>
            rw [List.cons_append, List.cons.injEq] at hname
            exact ⟨head, hname.2, (List.cons.inj hhead).2⟩
      · rw [if_neg hc]
        refine iff_of_false (by simp) ?_
        rintro ⟨head, hname, hhead⟩
        cases head with
        | nil => cases hhead
        | cons d head =>
          rw [List.cons_append, List.cons.injEq] at hname
          exact hc (hname.1 ▸ (List.cons.inj hhead).1.symm)

section Strip

variable {name space : String} {rest : List Char}

/-- A namespace with something behind it is cut off. -/
theorem stripNamespace_of_carried (h : afterNamespace? space.toList name.toList = some rest)
    (hspace : space ≠ "") (hrest : rest ≠ []) :
    stripNamespace name space = String.ofList (rest.dropWhile (· == '_')) := by
  obtain ⟨n, ns, hns⟩ := List.exists_cons_of_ne_nil (mt String.toList_eq_nil_iff.mp hspace)
  obtain ⟨c, cs, rfl⟩ := List.exists_cons_of_ne_nil hrest
  rw [hns] at h
  unfold stripNamespace stripChars
  rw [hns, h]

/-- Any other name stays as it is. -/
theorem stripNamespace_of_not_carried
    (h : ∀ rest, space ≠ "" → rest ≠ [] → afterNamespace? space.toList name.toList ≠ some rest) :
    stripNamespace name space = name := by
  unfold stripNamespace stripChars
  split
  case h_1 n ns c cs hspace hrest =>
    refine absurd hrest (h _ ?_ (List.cons_ne_nil c cs))
    rintro rfl
    cases hspace
  case h_2 => exact String.ofList_toList

end Strip

/-- Letters of either case take as many bytes. -/
theorem byteLength_map_toLower (cs : List Char) : byteLength (cs.map Char.toLower) = byteLength cs := by
  induction cs with
  | nil => rfl
  | cons c cs ih =>
    show c.toLower.utf8Size + byteLength (cs.map Char.toLower) = c.utf8Size + byteLength cs
    rw [ih, utf8Size_toLower]

/-! ### Cutting by bytes -/

/-- A text in two parts at a byte offset.  There is nothing to be had where the offset is inside a
character or behind the text. -/
def cutAt? (s : String) (offset : Nat) : Option (String × String) :=
  if h : (⟨offset⟩ : String.Pos.Raw).IsValid s then
    some ((s.sliceTo ⟨⟨offset⟩, h⟩).copy, (s.sliceFrom ⟨⟨offset⟩, h⟩).copy)
  else none

/-- A text can be cut at an offset that does not lie inside a character. -/
theorem cutAt?_eq_some {s head rest : String} {offset : Nat} :
    cutAt? s offset = some (head, rest) ↔ s = head ++ rest ∧ head.utf8ByteSize = offset := by
  unfold cutAt?
  constructor
  · intro h
    split at h
    case isTrue hvalid =>
      obtain ⟨rfl, rfl⟩ := Prod.mk.inj (Option.some.inj h)
      have hsplits := String.Pos.splits (⟨⟨offset⟩, hvalid⟩ : s.Pos)
      have hoffset := congrArg String.Pos.Raw.byteIdx hsplits.offset_eq_rawEndPos
      exact ⟨hsplits.eq_append, hoffset.symm⟩
    case isFalse => cases h
  · rintro ⟨rfl, rfl⟩
    -- behind the first part there is the start of a character, or the end
    have hvalid : (⟨head.utf8ByteSize⟩ : String.Pos.Raw).IsValid (head ++ rest) :=
      String.Pos.Raw.isValid_iff_exists_append.mpr ⟨head, rest, rfl, rfl⟩
    have hsplits : String.Pos.Splits (⟨⟨head.utf8ByteSize⟩, hvalid⟩ : (head ++ rest).Pos) head rest :=
      ⟨rfl, rfl⟩
    rw [dif_pos hvalid, hsplits.copy_sliceTo_eq, hsplits.copy_sliceFrom_eq]

/-- A name without its namespace, where the namespace is told by its number of bytes.  To look at the
bytes in front may fail, and then the name does not carry the namespace; to cut them off must not. -/
def stripBytes? (name space : String) : Option String :=
  match cutAt? name space.utf8ByteSize with
  | none => some name
  | some (head, _) =>
    if 0 < space.utf8ByteSize ∧ head.toList.map Char.toLower = space.toList.map Char.toLower
        ∧ space.utf8ByteSize < name.utf8ByteSize then
      (cutAt? name space.utf8ByteSize).map fun cut =>
        String.ofList (cut.2.toList.dropWhile (· == '_'))
    else some name

/-- Where a namespace is carried, there is a character behind it, or the end. -/
theorem exists_cutAt? {name space : String} {rest : List Char}
    (h : afterNamespace? space.toList name.toList = some rest) :
    ∃ head, cutAt? name space.utf8ByteSize = some (head, String.ofList rest)
      ∧ head.toList.map Char.toLower = space.toList.map Char.toLower := by
  obtain ⟨head, hname, hhead⟩ := afterNamespace?_eq_some.mp h
  refine ⟨String.ofList head, cutAt?_eq_some.mpr ⟨?_, ?_⟩, by rwa [String.toList_ofList]⟩
  · rw [← String.toList_inj, hname, String.toList_append, String.toList_ofList, String.toList_ofList]
  · rw [← byteLength_toList, ← byteLength_toList, String.toList_ofList, ← byteLength_map_toLower head,
      hhead, byteLength_map_toLower]

/-- **Namespaces end where a character does.**  Cutting them off by bytes never fails. -/
theorem stripBytes?_eq (name space : String) :
    stripBytes? name space = some (stripNamespace name space) := by
  unfold stripBytes?
  cases hcut : cutAt? name space.utf8ByteSize with
  | none =>
    -- no cut means that the offset is inside a character, where no namespace ends
    rw [stripNamespace_of_not_carried]
    intro rest _ _ hcarried
    obtain ⟨head, hhead, -⟩ := exists_cutAt? hcarried
    rw [hcut] at hhead
    cases hhead
  | some cut =>
    obtain ⟨head, rest⟩ := cut
    obtain ⟨hname, hsize⟩ := cutAt?_eq_some.mp hcut
    -- the check for something behind the namespace is one of lengths
    have hall : name.utf8ByteSize = space.utf8ByteSize + rest.utf8ByteSize := by
      rw [hname, String.utf8ByteSize_append, hsize]
    dsimp only
    by_cases hcarries : 0 < space.utf8ByteSize ∧ head.toList.map Char.toLower
        = space.toList.map Char.toLower ∧ space.utf8ByteSize < name.utf8ByteSize
    · rw [if_pos hcarries]
      obtain ⟨hspace, hlower, hmore⟩ := hcarries
      have hrest : afterNamespace? space.toList name.toList = some rest.toList :=
        afterNamespace?_eq_some.mpr ⟨head.toList, by rw [hname, String.toList_append], hlower⟩
      rw [stripNamespace_of_carried hrest]
      · rfl
      · rintro rfl
        exact absurd hspace (Nat.lt_irrefl 0)
      · rw [ne_eq, String.toList_eq_nil_iff]
        rintro rfl
        rw [hall] at hmore
        exact absurd hmore (Nat.lt_irrefl _)
    · rw [if_neg hcarries, stripNamespace_of_not_carried]
      intro more hspace hmore hcarried
      -- the namespace would be cut off at the same offset
      obtain ⟨head', hhead', hlower⟩ := exists_cutAt? hcarried
      rw [hcut] at hhead'
      obtain ⟨rfl, hrest⟩ := Prod.mk.inj (Option.some.inj hhead')
      have hpos : 0 < space.utf8ByteSize :=
        Nat.pos_of_ne_zero (mt String.utf8ByteSize_eq_zero_iff.mp hspace)
      have hbehind : 0 < rest.utf8ByteSize := by
        refine Nat.pos_of_ne_zero (mt String.utf8ByteSize_eq_zero_iff.mp fun hempty => hmore ?_)
        rw [hempty] at hrest
        exact String.ofList_eq_empty_iff.mp hrest.symm
      exact hcarries ⟨hpos, hlower, by omega⟩

/-! ### Safe names -/

namespace Convention

variable (v : Convention)

/-- A word of the language is changed, and other names stay as they are. -/
theorem safeName_eq (name : String) :
    v.safeName name = if name ∈ v.reserved then v.escape name else name := by
  have hreserved : v.isReserved name = true ↔ name ∈ v.reserved := List.contains_iff_mem
  rw [safeName]
  by_cases hname : name ∈ v.reserved
  · rw [if_pos hname, if_pos (hreserved.mpr hname)]
  · rw [if_neg hname, if_neg (mt hreserved.mp hname)]

/-- No word of the language is left, if none becomes another one. -/
theorem safeName_not_reserved {v : Convention}
    (hescape : ∀ word ∈ v.reserved, v.escape word ∉ v.reserved) (name : String) :
    v.safeName name ∉ v.reserved := by
  rw [safeName_eq]
  by_cases hname : name ∈ v.reserved
  · rw [if_pos hname]
    exact hescape name hname
  · rwa [if_neg hname]

/-- Names stay apart if a word of the language gets a character behind it that they do not end with. -/
theorem safeName_inj {v : Convention} {x : Char} (hescape : ∀ word, v.escape word = word ++ x.toString)
    {a b : String} (ha : a.toList.getLast? ≠ some x) (hb : b.toList.getLast? ≠ some x)
    (h : v.safeName a = v.safeName b) : a = b := by
  have hne : ∀ {s t : String}, s.toList.getLast? ≠ some x → s ≠ t ++ x.toString := by
    rintro s t hs rfl
    exact hs (by simp)
  rw [safeName_eq, safeName_eq, hescape, hescape] at h
  -- a name that was changed ends in the character, and one that was not does not
  by_cases hra : a ∈ v.reserved <;> by_cases hrb : b ∈ v.reserved
  · rw [if_pos hra, if_pos hrb] at h
    exact String.append_left_inj _ |>.mp h
  · rw [if_pos hra, if_neg hrb] at h
    exact absurd h.symm (hne hb)
  · rw [if_neg hra, if_pos hrb] at h
    exact absurd h (hne ha)
  · rwa [if_neg hra, if_neg hrb] at h

end Convention

end GLBindings.Naming

namespace GLBindings.CppNaming

/-- With an underscore behind it, no word of C++ is another one. -/
theorem escape_not_keyword : ∀ word ∈ keywords, convention.escape word ∉ keywords := by
  decide

end GLBindings.CppNaming
