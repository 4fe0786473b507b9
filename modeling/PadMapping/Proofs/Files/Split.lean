import PadMapping.Proofs.Files.Rooted

/-!
# Paths that are taken apart

A path is taken apart at its last name, and what stands between names without naming anything is
dropped: empty pieces, and dots at the ends of both parts. A dot is no more than a demand for a
directory, and a name that follows makes the same demand. So what is in front of the last name can
be exchanged for the directory that is split off, whatever is looked up from there (`InFront`).

A slash or dots behind the last name are dropped as well. They ask that the name be that of a
directory, and this is lost.
-/

namespace PadMapping.Proofs

open FileTree

/-! ## Pieces -/

theorem noSlash_of_mem_pieces {path piece : String} (h : piece ∈ Path.pieces path) :
    '/' ∉ piece.toList := by
  obtain ⟨text, htext, rfl⟩ := List.mem_map.mp h
  rw [String.toList_ofList]
  exact noSlash_of_mem_splitSlashes (by simp) htext

theorem splitSlashes_ne_nil (current text : List Char) : Path.splitSlashes current text ≠ [] := by
  induction text generalizing current with
  | nil => simp [Path.splitSlashes]
  | cons c text ih =>
      rw [Path.splitSlashes]
      split
      · simp
      · exact ih _

theorem intercalate_splitSlashes (current text : List Char) :
    ['/'].intercalate (Path.splitSlashes current text) = current.reverse ++ text := by
  induction text generalizing current with
  | nil => simp [Path.splitSlashes]
  | cons c text ih =>
      rw [Path.splitSlashes]
      split
      · rename_i hc
        rw [List.intercalate_cons_of_ne_nil (splitSlashes_ne_nil _ _), ih, hc]
        simp
      · rw [ih]
        simp

/-- The pieces of a path, with slashes between them, are the path. -/
theorem intercalate_pieces (path : String) : "/".intercalate (Path.pieces path) = path := by
  rw [← String.toList_inj, String.toList_intercalate, Path.pieces, List.map_map]
  have hsame : String.toList ∘ String.ofList = id := funext fun text => String.toList_ofList
  rw [hsame, List.map_id]
  exact intercalate_splitSlashes [] path.toList

theorem names_intercalate {pieces : List String} (h : ∀ piece ∈ pieces, '/' ∉ piece.toList) :
    Path.names ("/".intercalate pieces) = pieces.filter (· != "") := by
  have hpiece : ∀ piece ∈ pieces, Path.names piece = [piece].filter (· != "") := by
    intro piece hmem
    rw [Path.names, Path.pieces, splitSlashes_of_noSlash (h piece hmem)]
    simp
  induction pieces with
  | nil => rfl
  | cons piece rest ih =>
      cases rest with
      | nil =>
          rw [String.intercalate_singleton]
          exact hpiece piece List.mem_cons_self
      | cons next rest =>
          rw [String.intercalate_cons_cons, names_append_slash,
            ih (fun x hx => h x (List.mem_cons_of_mem _ hx))
              (fun x hx => hpiece x (List.mem_cons_of_mem _ hx)),
            hpiece piece List.mem_cons_self, ← List.filter_append]
          rfl

/-! ## Dots -/

/-- Names that stay where they are. -/
def Dots (names : List String) : Prop := ∀ name ∈ names, name = "."

theorem follow_append (present : Location → Presence) (l : Location) (front back : List String) :
    Location.follow present l (front ++ back)
      = (Location.follow present l front).bind fun m => Location.follow present m back := by
  induction front generalizing l with
  | nil => rfl
  | cons name front ih =>
      rw [List.cons_append, Location.follow, Location.follow]
      cases present l with
      | missing => rfl
      | file => rfl
      | directory =>
          dsimp only
          split
          · exact ih _
          · split
            · exact ih _
            · split
              · rfl
              · exact ih _

/-- Dots in front of a name ask for what the name asks for. -/
theorem follow_dots {dots : List String} (h : Dots dots) (present : Location → Presence)
    (l : Location) (name : String) (rest : List String) :
    Location.follow present l (dots ++ name :: rest)
      = Location.follow present l (name :: rest) := by
  induction dots with
  | nil => rfl
  | cons dot dots ih =>
      have hdots : Dots dots := fun x hx => h x (List.mem_cons_of_mem _ hx)
      rw [h dot List.mem_cons_self, List.cons_append, Location.follow]
      cases hl : present l with
      | missing => rw [Location.follow, hl]
      | file => rw [Location.follow, hl]
      | directory =>
          dsimp only
          rw [if_pos rfl]
          exact ih hdots

theorem eq_of_follow_dots {dots : List String} (h : Dots dots) {present : Location → Presence}
    {l k : Location} (hfollow : Location.follow present l dots = .ok k) : k = l := by
  induction dots with
  | nil =>
      injection hfollow with hfollow
      exact hfollow.symm
  | cons dot dots ih =>
      obtain ⟨_, next, hleads, hrest⟩ := follow_cons_eq_ok.mp hfollow
      have hdot := h dot List.mem_cons_self
      cases hleads with
      | here => exact ih (fun x hx => h x (List.mem_cons_of_mem _ hx)) hrest
      | up => exact absurd hdot (by decide)
      | down hname => exact absurd hdot hname.ne_dot

theorem follow_dots_of_present {dots : List String} (h : Dots dots)
    {present : Location → Presence} {l : Location} (hl : present l = .directory) :
    Location.follow present l dots = .ok l := by
  induction dots with
  | nil => rfl
  | cons dot dots ih =>
      refine follow_cons_eq_ok.mpr ⟨hl, l, ?_, ih fun x hx => h x (List.mem_cons_of_mem _ hx)⟩
      rw [h dot List.mem_cons_self]
      exact .here

theorem dropWhile_dots {dots : List String} (h : Dots dots) (front : List String) {name : String}
    (hname : name ≠ ".") :
    (front ++ name :: dots).reverse.dropWhile (· == ".") = name :: front.reverse := by
  have hreverse : (front ++ name :: dots).reverse = dots.reverse ++ name :: front.reverse := by
    simp
  rw [hreverse, List.dropWhile_append_of_pos (by simpa [Dots] using h), List.dropWhile_cons,
    if_neg (by simpa using hname)]

/-- There is one last name that is no dot. -/
theorem last_unique {front front' dots dots' : List String} {name name' : String}
    (h : front ++ name :: dots = front' ++ name' :: dots') (hdots : Dots dots)
    (hdots' : Dots dots') (hname : name ≠ ".") (hname' : name' ≠ ".") :
    front = front' ∧ name = name' ∧ dots = dots' := by
  have hdrop := dropWhile_dots hdots front hname
  rw [h, dropWhile_dots hdots' front' hname'] at hdrop
  injection hdrop with hsame hfront
  subst hsame
  rw [List.reverse_inj] at hfront
  subst hfront
  injection List.append_cancel_left h with _ hrest
  exact ⟨rfl, rfl, hrest⟩

/-! ## Taking a path apart -/

/-- Whatever is looked up from it, the directory serves as well as the names at the front of the
path. -/
structure InFront (path directory : String) (front : List String) : Prop where
  isAbsolute : Path.isAbsolute directory = Path.isAbsolute path
  follow : ∀ present l name rest, Location.follow present l (Path.names directory ++ name :: rest)
    = Location.follow present l (front ++ name :: rest)

/-- What taking a path apart can come to. -/
inductive Splits (path : String) : String × Option String → Prop where
  | nameless : Dots (Path.names path) → Splits path (".", none)
  | named {directory name : String} {front dots : List String} :
      Path.names path = front ++ name :: dots → Dots dots → InPath name → name ≠ "." →
      InFront path directory front → Splits path (directory, some name)

/-- What is left when the end of a list is dropped. -/
theorem dropWhile_reverse {α : Type} (p : α → Bool) (xs : List α) :
    (∀ x ∈ xs, p x = true) ∧ xs.reverse.dropWhile p = []
      ∨ ∃ front x back, xs = front ++ x :: back ∧ p x = false ∧ (∀ y ∈ back, p y = true)
        ∧ xs.reverse.dropWhile p = x :: front.reverse := by
  have hsplit : xs.reverse.takeWhile p ++ xs.reverse.dropWhile p = xs.reverse :=
    List.takeWhile_append_dropWhile
  have hidle : ∀ y ∈ xs.reverse.takeWhile p, p y = true :=
    List.all_eq_true.mp List.all_takeWhile
  cases hdrop : xs.reverse.dropWhile p with
  | nil =>
      rw [hdrop, List.append_nil] at hsplit
      rw [hsplit] at hidle
      exact .inl ⟨fun x hx => hidle x (List.mem_reverse.mpr hx), rfl⟩
  | cons x rest =>
      have hx := List.head?_dropWhile_not p xs.reverse
      rw [hdrop] at hx hsplit
      refine .inr ⟨rest.reverse, x, (xs.reverse.takeWhile p).reverse, ?_, hx, ?_, by simp⟩
      · rw [← List.reverse_inj]
        simpa using hsplit.symm
      · intro y hy
        exact hidle y (List.mem_reverse.mp hy)

theorem dots_of_idle {pieces : List String}
    (h : ∀ piece ∈ pieces, (piece == "" || piece == ".") = true) :
    Dots (pieces.filter (· != "")) := by
  intro name hname
  obtain ⟨hmem, hne⟩ := List.mem_filter.mp hname
  have hidle := h name hmem
  simp only [Bool.or_eq_true, beq_iff_eq] at hidle
  exact hidle.resolve_left (by simpa using hne)

/-- The directory if no more than dots are in front of the last name. -/
theorem inFront_of_idle (path : String) {outer : List String}
    (h : ∀ piece ∈ outer, (piece == "" || piece == ".") = true) :
    InFront path (if Path.isAbsolute path then "/" else ".") (outer.filter (· != "")) where
  isAbsolute := by
    split
    · rename_i habsolute
      rw [habsolute]
      rfl
    · rename_i hrelative
      rw [Bool.eq_false_iff.mpr hrelative]
      rfl
  follow := by
    intro present l name rest
    rw [follow_dots (dots_of_idle h)]
    split
    · rfl
    · have hdot : Dots ["."] := by simp [Dots]
      exact follow_dots hdot present l name rest

/-- The directory is the beginning of the path, up to the last piece that is more than a dot. -/
theorem inFront_of_last {path last : String} {front idle back : List String}
    (hpieces : Path.pieces path = front ++ last :: (idle ++ back)) (hlast : last ≠ "")
    (hidle : ∀ piece ∈ idle, (piece == "" || piece == ".") = true) (hback : back ≠ []) :
    InFront path ("/".intercalate (front ++ [last]))
      ((front ++ last :: idle).filter (· != "")) := by
  have hpath : path = "/".intercalate (front ++ [last])
      ++ ("/" ++ "/".intercalate (idle ++ back)) := by
    rw [← String.append_assoc, ← String.intercalate_append_of_ne_nil (by simp) (by simp [hback])]
    conv_lhs => rw [← intercalate_pieces path, hpieces]
    simp
  have hdirectory : Path.names ("/".intercalate (front ++ [last]))
      = (front ++ [last]).filter (· != "") := by
    refine names_intercalate fun piece hpiece => ?_
    have hmem : piece ∈ Path.pieces path := by
      rw [hpieces]
      rcases List.mem_append.mp hpiece with hpiece | hpiece
      · simp [hpiece]
      · simp [List.mem_singleton.mp hpiece]
    exact noSlash_of_mem_pieces hmem
  have hne : ("/".intercalate (front ++ [last])).toList ≠ [] := by
    rw [Ne, String.toList_eq_nil_iff]
    intro hempty
    have hmem : last ∈ (front ++ [last]).filter (· != "") := by simp [hlast]
    have hnone : Path.names "" = [] := rfl
    rw [← hdirectory, hempty, hnone] at hmem
    exact List.not_mem_nil hmem
  refine ⟨?_, fun present l name rest => ?_⟩
  · conv_rhs => rw [hpath]
    rw [Path.isAbsolute, Path.isAbsolute, String.toList_append,
      List.head?_append_of_ne_nil _ hne]
  · have hfront : (front ++ last :: idle).filter (· != "")
        = Path.names ("/".intercalate (front ++ [last])) ++ idle.filter (· != "") := by
      rw [hdirectory, ← List.filter_append, List.append_assoc]
      rfl
    rw [hfront, List.append_assoc, follow_append _ _ _ (name :: rest),
      follow_append _ _ _ (_ ++ _)]
    congr 1
    funext m
    exact (follow_dots (dots_of_idle hidle) present m name rest).symm

theorem splits_split (path : String) : Splits path (Path.split path) := by
  rw [Path.split]
  rcases dropWhile_reverse (fun piece => piece == "" || piece == ".") (Path.pieces path)
    with ⟨hidle, hdrop⟩ | ⟨outer, name, back, hpieces, hname, hback, hdrop⟩
  · simp only [hdrop]
    exact .nameless (dots_of_idle hidle)
  · simp only [hdrop]
    simp only [Bool.or_eq_false_iff, beq_eq_false_iff_ne] at hname
    have hin : InPath name := ⟨hname.1, noSlash_of_mem_pieces (by rw [hpieces]; simp)⟩
    have hnames : Path.names path = outer.filter (· != "") ++ name :: back.filter (· != "") := by
      rw [Path.names, hpieces, List.filter_append, List.filter_cons,
        if_pos (by simpa using hname.1)]
    rcases dropWhile_reverse (fun piece => piece == "" || piece == ".") outer
      with ⟨hidle, hdrop⟩ | ⟨front, last, idle, houter, hlast, hidle, hdrop⟩
    · simp only [hdrop]
      exact .named hnames (dots_of_idle hback) hin hname.2 (inFront_of_idle path hidle)
    · simp only [hdrop, List.reverse_cons, List.reverse_reverse]
      simp only [Bool.or_eq_false_iff, beq_eq_false_iff_ne] at hlast
      rw [houter, List.append_assoc] at hpieces
      rw [houter] at hnames
      exact .named hnames (dots_of_idle hback) hin hname.2
        (inFront_of_last hpieces hlast.1 hidle (List.cons_ne_nil _ _))

end PadMapping.Proofs
