/-
Which tests are found in a directory.

A walk comes to everything in a tree, each thing at its location and before those with greater ones. So
the tests are exactly the script files, in the order of their locations, whatever the directories are
named. A test's name is its place without the extension, except for a script named `..ui`: without its
extension a point would be left that names no file, and it is called `..` instead, as a script named
`...ui` is.
-/
import Mathlib.Data.List.Nodup
import Mathlib.Data.List.TakeWhile
import Mathlib.Data.String.Basic
import PageScript.Proofs.Text.Split
import PageScript.Suite

namespace PageScript

-- ======== walks

namespace Tree

/-- In each directory the entries have different names, and no slash is in one. -/
inductive IsProper : Tree → Prop
  | leaf {t : Tree} (h : t.isDir = false) : IsProper t
  | dir {entries : List (String × Tree)} {traits : Traits} (distinct : (entries.map Prod.fst).Nodup)
      (names : ∀ e ∈ entries, '/' ∉ e.1.toList) (each : ∀ e ∈ entries, IsProper e.2) :
      IsProper (.dir entries traits)

theorem tourEntries_eq (entries : List (String × Tree)) :
    tourEntries entries = entries.map fun e => (e.1, e.2.tour) := by
  induction entries with
  | nil => rfl
  | cons e rest ih => rw [tourEntries, ih, List.map_cons]

theorem tour_of_leaf {t : Tree} (h : t.isDir = false) : t.tour = [([], t)] := by
  cases t with
  | dir => cases h
  | _ => rfl

theorem get?_of_leaf {t : Tree} (h : t.isDir = false) (name : String) (rest : List String) :
    t.get? (name :: rest) = none := by
  cases t with
  | dir => cases h
  | _ => rfl

theorem byName_perm {α : Type} (entries : List (String × α)) : (byName entries).Perm entries :=
  List.mergeSort_perm ..

/-- Entries with different names are brought into strictly increasing order. -/
theorem byName_sorted {α : Type} {entries : List (String × α)} (h : (entries.map Prod.fst).Nodup) :
    (byName entries).Pairwise fun a b => a.1 < b.1 := by
  have hle : (byName entries).Pairwise fun a b => a.1 ≤ b.1 := by
    refine (List.pairwise_mergeSort ?_ ?_ entries).imp of_decide_eq_true
    · intro a b c hab hbc
      exact decide_eq_true ((of_decide_eq_true hab).trans (of_decide_eq_true hbc))
    · intro a b
      simpa using le_total a.1 b.1
  have hne : (byName entries).Pairwise fun a b => a.1 ≠ b.1 :=
    List.pairwise_map.1 (((byName_perm entries).map Prod.fst).nodup_iff.2 h)
  exact (hle.and hne).imp fun hab => lt_of_le_of_ne hab.1 hab.2

theorem child?_eq_some_iff {entries : List (String × Tree)} {traits : Traits}
    (h : (entries.map Prod.fst).Nodup) {name : String} {u : Tree} :
    (Tree.dir entries traits).child? name = some u ↔ (name, u) ∈ entries := by
  rw [child?, Option.map_eq_some_iff]
  constructor
  · rintro ⟨e, hfind, rfl⟩
    have hname : e.1 = name := of_decide_eq_true (List.find?_some hfind :)
    exact hname ▸ List.mem_of_find?_eq_some hfind
  · intro hmem
    obtain ⟨e, hfind⟩ : ∃ e, entries.find? (fun e => e.1 = name) = some e :=
      Option.isSome_iff_exists.1 (List.find?_isSome.2 ⟨_, hmem, decide_eq_true rfl⟩)
    have hname : e.1 = name := of_decide_eq_true (List.find?_some hfind :)
    have heq : e = (name, u) :=
      List.inj_on_of_nodup_map h (List.mem_of_find?_eq_some hfind) hmem hname
    exact ⟨e, hfind, by rw [heq]⟩

theorem get?_cons_eq_some_iff {t : Tree} {name : String} {rest : List String} {u : Tree} :
    t.get? (name :: rest) = some u ↔ ∃ sub, t.child? name = some sub ∧ sub.get? rest = some u := by
  rw [get?]
  cases t.child? name <;> simp

theorem mem_tour_dir_iff {entries : List (String × Tree)} {traits : Traits} {name : String}
    {rest : List String} {u : Tree} :
    (name :: rest, u) ∈ (Tree.dir entries traits).tour ↔
      ∃ sub, (name, sub) ∈ entries ∧ (rest, u) ∈ sub.tour := by
  simp only [tour, tourEntries_eq, List.mem_cons, List.mem_flatMap, (byName_perm _).mem_iff]
  constructor
  · rintro (heq | ⟨_, he, hmem⟩)
    · cases heq
    · obtain ⟨e, hentry, rfl⟩ := List.mem_map.1 he
      obtain ⟨v, hv, heq⟩ := List.mem_map.1 hmem
      cases heq
      exact ⟨e.2, hentry, hv⟩
  · rintro ⟨sub, he, hmem⟩
    exact .inr ⟨_, List.mem_map.2 ⟨_, he, rfl⟩, List.mem_map.2 ⟨_, hmem, rfl⟩⟩

/-- A walk comes to a location exactly if there is something, and to what is there. -/
theorem mem_tour_iff {t : Tree} (h : t.IsProper) (location : List String) (u : Tree) :
    (location, u) ∈ t.tour ↔ t.get? location = some u := by
  induction h generalizing location u with
  | leaf hleaf =>
    rw [tour_of_leaf hleaf, List.mem_singleton, Prod.mk.injEq]
    cases location with
    | nil => simp [get?, eq_comm]
    | cons name rest => simp [get?_of_leaf hleaf]
  | @dir entries traits hdistinct _ _ ih =>
    cases location with
    | nil => simp [tour, get?, eq_comm]
    | cons name rest =>
      rw [mem_tour_dir_iff, get?_cons_eq_some_iff]
      refine exists_congr fun sub => ?_
      rw [child?_eq_some_iff hdistinct]
      exact and_congr_right fun he => ih _ he rest u

/-- The locations of a walk increase, name by name. -/
theorem tour_sorted {t : Tree} (h : t.IsProper) : t.tour.Pairwise fun v w => v.1 < w.1 := by
  induction h with
  | leaf hleaf =>
    rw [tour_of_leaf hleaf]
    exact List.pairwise_singleton ..
  | @dir entries traits hdistinct _ _ ih =>
    have hnames : ((tourEntries entries).map Prod.fst).Nodup := by
      rw [tourEntries_eq, List.map_map]
      exact hdistinct
    refine List.pairwise_cons.2 ⟨fun w hw => ?_, List.pairwise_flatMap.2 ⟨fun e he => ?_, ?_⟩⟩
    · -- the directory comes first, for its location is empty
      obtain ⟨e, -, hw⟩ := List.mem_flatMap.1 hw
      obtain ⟨v, -, rfl⟩ := List.mem_map.1 hw
      exact List.nil_lt_cons ..
    · -- below one entry the order is that of the walk through it
      have hentries : e ∈ tourEntries entries := (byName_perm _).mem_iff.1 he
      rw [tourEntries_eq] at hentries
      obtain ⟨e, hentry, rfl⟩ := List.mem_map.1 hentries
      exact List.pairwise_map.2 ((ih e hentry).imp fun hvw => List.cons_lt_cons_iff.2 (.inr ⟨rfl, hvw⟩))
    · -- and below two entries it is that of their names
      refine (byName_sorted hnames).imp fun hlt v hv w hw => ?_
      obtain ⟨v, -, rfl⟩ := List.mem_map.1 hv
      obtain ⟨w, -, rfl⟩ := List.mem_map.1 hw
      exact List.cons_lt_cons_iff.2 (.inl hlt)

/-- There is no slash in the names that lead to a place. -/
theorem slash_not_mem_of_get? {t : Tree} (h : t.IsProper) {location : List String} {u : Tree}
    (hget : t.get? location = some u) : ∀ name ∈ location, '/' ∉ name.toList := by
  induction h generalizing location with
  | leaf hleaf =>
    cases location with
    | nil => simp
    | cons name rest => rw [get?_of_leaf hleaf] at hget; cases hget
  | @dir entries traits hdistinct hnames _ ih =>
    cases location with
    | nil => simp
    | cons name rest =>
      obtain ⟨sub, hentry, hrest⟩ := get?_cons_eq_some_iff.1 hget
      have hmem := (child?_eq_some_iff hdistinct).1 hentry
      exact List.forall_mem_cons.2 ⟨hnames _ hmem, ih _ hmem hrest⟩

end Tree

-- ======== names

namespace Path

/-- A name is cut at its last point, unless nothing stands in front of it. -/
theorem splitExtension_append {stem ext : List Char} (hstem : stem ≠ []) (hext : '.' ∉ ext) :
    splitExtension (stem ++ '.' :: ext) = (stem, some ext) := by
  have hends : ∀ c ∈ ext.reverse, (c != '.') = true := by
    intro c hc
    exact bne_iff_ne.2 fun h => hext (h ▸ List.mem_reverse.1 hc)
  have hreverse : (stem ++ '.' :: ext).reverse = ext.reverse ++ '.' :: stem.reverse := by simp
  simp only [splitExtension, hreverse, List.takeWhile_append_of_pos hends,
    List.dropWhile_append_of_pos hends]
  simp [hstem]

theorem of_splitExtension {name stem ext : List Char}
    (h : splitExtension name = (stem, some ext)) :
    stem ≠ [] ∧ '.' ∉ ext ∧ name = stem ++ '.' :: ext := by
  have hcut : name =
      (name.reverse.dropWhile (· != '.')).reverse ++ (name.reverse.takeWhile (· != '.')).reverse := by
    rw [← List.reverse_append, List.takeWhile_append_dropWhile, List.reverse_reverse]
  simp only [splitExtension] at h
  split at h
  · cases h
  · next hfront =>
    simp only [Prod.mk.injEq, Option.some.injEq] at h
    obtain ⟨rfl, rfl⟩ := h
    refine ⟨hfront, fun hmem => ?_, ?_⟩
    · simpa using List.mem_takeWhile_imp (List.mem_reverse.1 hmem)
    · rcases hback : name.reverse.dropWhile (· != '.') with _ | ⟨c, back⟩
      · simp [hback] at hfront
      · have hhead := List.head?_dropWhile_not (· != '.') name.reverse
        rw [hback] at hhead
        have hc : c = '.' := by simpa using hhead
        conv_lhs => rw [hcut, hback, hc]
        simp

end Path

namespace Suite

/-- The last name of a location ends in the extension of scripts, behind a stem. -/
theorem isScript_iff {location : List String} :
    isScript location = true ↔
      ∃ stem ≠ [], (location.getLastD "").toList = stem ++ ".ui".toList := by
  rw [isScript, decide_eq_true_iff, lastName]
  constructor
  · intro h
    obtain ⟨hstem, -, hname⟩ := Path.of_splitExtension (Prod.ext rfl h)
    exact ⟨_, hstem, hname⟩
  · rintro ⟨stem, hstem, hname⟩
    rw [hname]
    exact congrArg Prod.snd (Path.splitExtension_append hstem (by decide))

/-- Without its extension a script is called by its stem, unless that is a mere point. -/
theorem bareName_eq {location : List String} {stem : List Char} (hstem : stem ≠ [])
    (hslash : '/' ∉ stem) (h : (location.getLastD "").toList = stem ++ ".ui".toList) :
    bareName location = if stem = ['.'] then ".." else String.ofList stem := by
  have hlast : (lastName location).1 = stem := by
    rw [lastName, h]
    exact congrArg Prod.fst (Path.splitExtension_append hstem (by decide))
  have hpath : (Path.mk (String.ofList (stem ++ ['.']))).isAbsolute = false := by
    cases stem with
    | nil => exact absurd rfl hstem
    | cons c stem =>
      have hc : c ≠ '/' := fun hc => hslash (hc ▸ List.mem_cons_self)
      simpa [Path.isAbsolute] using hc
  have hsegments : (Path.mk (String.ofList (stem ++ ['.']))).segments = [stem ++ ['.']] := by
    rw [Path.segments, hpath, if_neg Bool.false_ne_true, String.toList_ofList]
    exact Text.splitOn_of_not_mem (by simp [hslash])
  have hname : (Path.mk (String.ofList (stem ++ ['.']))).fileName?.isNone = decide (stem = ['.']) := by
    have htrimmed : Path.trimmedSegments false [stem ++ ['.']] = [stem ++ ['.']] := by
      simp [Path.trimmedSegments]
    have hpoint : stem ++ ['.'] = ['.', '.'] ↔ stem = ['.'] :=
      (List.append_left_inj ['.'] : stem ++ ['.'] = ['.'] ++ ['.'] ↔ _)
    rw [Path.fileName?, hpath, hsegments, htrimmed, List.getLast?_singleton]
    by_cases h : stem = ['.'] <;> simp [hstem, hpoint, h]
  simp only [bareName, hlast, hname, decide_eq_true_iff]
  split
  · next hpoint => rw [hpoint]; rfl
  · rfl

theorem toList_intercalate (names : List String) :
    (String.intercalate "/" names).toList = Text.joinWith '/' (names.map String.toList) := by
  rw [String.toList_intercalate]
  induction names with
  | nil => rfl
  | cons name names ih =>
    cases names with
    | nil => simp [Text.joinWith]
    | cons second names => simpa [Text.joinWith] using ih

/-- That there is a script file at a location in a tree. -/
def IsScriptAt (t : Tree) (location : List String) : Prop :=
  (∃ u, t.get? location = some u ∧ u.isRegular = true) ∧
    ∃ stem ≠ [], (location.getLastD "").toList = stem ++ ".ui".toList

/-- Where a script is, and what it is called: in a directory, by a stem and the extension. -/
theorem IsScriptAt.parts {t : Tree} {location : List String} (h : IsScriptAt t location)
    (ht : t.IsProper) :
    ∃ front stem, stem ≠ [] ∧ (∀ name ∈ front, '/' ∉ name.toList) ∧ '/' ∉ stem ∧
      location = front ++ [String.ofList (stem ++ ".ui".toList)] ∧
      bareName location = if stem = ['.'] then ".." else String.ofList stem := by
  obtain ⟨⟨u, hget, -⟩, stem, hstem, hlast⟩ := h
  have hslash := Tree.slash_not_mem_of_get? ht hget
  rcases List.eq_nil_or_concat location with rfl | ⟨front, last, rfl⟩
  · simp at hlast
  · simp only [List.concat_eq_append, List.getLastD_concat, List.mem_append, List.mem_singleton]
      at hlast hslash ⊢
    have hstemSlash : '/' ∉ stem := by
      intro hmem
      exact hslash last (.inr rfl) (by rw [hlast]; exact List.mem_append_left _ hmem)
    refine ⟨front, stem, hstem, fun name hname => hslash name (.inl hname), hstemSlash, ?_,
      bareName_eq hstem hstemSlash (by rw [List.getLastD_concat, hlast])⟩
    rw [← hlast, String.ofList_toList]

/-- Different scripts have different names, except for two in one directory that are both called `..`. -/
theorem eq_of_name_eq {t : Tree} (ht : t.IsProper) {l₁ l₂ : List String} (h₁ : IsScriptAt t l₁)
    (h₂ : IsScriptAt t l₂) {directory : Path}
    (h : (Case.below directory l₁).name = (Case.below directory l₂).name) :
    l₁ = l₂ ∨ ∃ front, (l₁ = front ++ ["..ui"] ∧ l₂ = front ++ ["...ui"]) ∨
      (l₁ = front ++ ["...ui"] ∧ l₂ = front ++ ["..ui"]) := by
  obtain ⟨front₁, stem₁, -, hslash₁, hstem₁, rfl, hbare₁⟩ := h₁.parts ht
  obtain ⟨front₂, stem₂, -, hslash₂, hstem₂, rfl, hbare₂⟩ := h₂.parts ht
  simp only [Case.below, List.dropLast_concat, hbare₁, hbare₂] at h
  have hsegments : ∀ {front : List String} {stem : List Char},
      (∀ name ∈ front, '/' ∉ name.toList) → '/' ∉ stem →
      Text.splitOn '/' (String.intercalate "/"
        (front ++ [if stem = ['.'] then ".." else String.ofList stem])).toList =
        (front ++ [if stem = ['.'] then ".." else String.ofList stem]).map String.toList := by
    intro front stem hfront hstem
    rw [toList_intercalate, Text.splitOn_joinWith (by simp)]
    intro s hs
    obtain ⟨name, hname, rfl⟩ := List.mem_map.1 hs
    rcases List.mem_append.1 hname with hname | hname
    · exact hfront name hname
    · rw [List.mem_singleton.1 hname]
      split
      · decide
      · rwa [String.toList_ofList]
  have heq := (hsegments hslash₁ hstem₁).symm.trans
    ((congrArg (fun name : String => Text.splitOn '/' name.toList) h).trans
      (hsegments hslash₂ hstem₂))
  have hinj : Function.Injective String.toList := fun _ _ => String.toList_inj.1
  obtain ⟨rfl, hbare⟩ := List.append_inj' (List.map_injective_iff.2 hinj heq) rfl
  rw [List.cons.injEq] at hbare
  have hbare := hbare.1
  split at hbare <;> split at hbare
  · next hp₁ hp₂ => exact .inl (by rw [hp₁, hp₂])
  · next hp₁ hp₂ =>
    have hstem : stem₂ = ['.', '.'] := (String.ofList_inj.1 hbare).symm
    exact .inr ⟨front₁, .inl ⟨by rw [hp₁]; rfl, by rw [hstem]; rfl⟩⟩
  · next hp₁ hp₂ =>
    have hstem : stem₁ = ['.', '.'] := String.ofList_inj.1 hbare
    exact .inr ⟨front₁, .inr ⟨by rw [hstem]; rfl, by rw [hp₂]; rfl⟩⟩
  · exact .inl (by rw [String.ofList_inj.1 hbare])

/-- The name of a script is its place without the extension. -/
theorem name_append_extension {t : Tree} (ht : t.IsProper) {location : List String}
    (h : IsScriptAt t location) (hlast : location.getLastD "" ≠ "..ui") (directory : Path) :
    (Case.below directory location).name ++ ".ui" = String.intercalate "/" location := by
  obtain ⟨front, stem, -, -, -, rfl, hbare⟩ := h.parts ht
  have hstem : stem ≠ ['.'] := by
    rintro rfl
    exact hlast (by rw [List.getLastD_concat]; rfl)
  simp only [Case.below, List.dropLast_concat, hbare, if_neg hstem]
  rw [← String.toList_inj, String.toList_append, toList_intercalate, toList_intercalate]
  simp [Text.joinWith_concat]

theorem name_of_point {t : Tree} (ht : t.IsProper) {location : List String}
    (h : IsScriptAt t location) (hlast : location.getLastD "" = "..ui") (directory : Path) :
    (Case.below directory location).name =
      String.intercalate "/" (location.dropLast ++ [".."]) := by
  obtain ⟨front, stem, -, -, -, rfl, hbare⟩ := h.parts ht
  rw [List.getLastD_concat, ← String.toList_inj, String.toList_ofList] at hlast
  have hstem : stem = ['.'] :=
    (List.append_left_inj ".ui".toList).1 (hlast : stem ++ ".ui".toList = ['.'] ++ ".ui".toList)
  rw [Case.below, hbare, if_pos hstem]

/-- The names of some scripts differ exactly if no two of them are both called `..`. -/
theorem names_nodup_iff {t : Tree} (ht : t.IsProper) {locations : List (List String)}
    (h : ∀ l ∈ locations, IsScriptAt t l) (hnodup : locations.Nodup) (directory : Path) :
    (locations.map fun l => (Case.below directory l).name).Nodup ↔
      ¬∃ front, front ++ ["..ui"] ∈ locations ∧ front ++ ["...ui"] ∈ locations := by
  constructor
  · rintro hnames ⟨front, hpoint, hpoints⟩
    have hname : (Case.below directory (front ++ ["..ui"])).name =
        (Case.below directory (front ++ ["...ui"])).name := by
      have hbare : bareName (front ++ ["...ui"]) = ".." :=
        bareName_eq (by decide : ['.', '.'] ≠ []) (by decide) (by rw [List.getLastD_concat]; rfl)
      rw [name_of_point ht (h _ hpoint) (by rw [List.getLastD_concat]), Case.below, hbare,
        List.dropLast_concat, List.dropLast_concat]
    have heq := List.inj_on_of_nodup_map hnames hpoint hpoints hname
    exact absurd (List.append_cancel_left heq) (by decide)
  · intro hpoints
    refine hnodup.map_on fun l₁ hl₁ l₂ hl₂ hname => ?_
    rcases eq_of_name_eq ht (h _ hl₁) (h _ hl₂) hname with
      heq | ⟨front, ⟨rfl, rfl⟩ | ⟨rfl, rfl⟩⟩
    · exact heq
    · exact absurd ⟨front, hl₁, hl₂⟩ hpoints
    · exact absurd ⟨front, hl₂, hl₁⟩ hpoints

-- ======== tests

/-- What a scan finds: it fails at a directory whose path is too long, and else takes the script files. -/
theorem scan_eq_ok_iff {directory : Path} {visits : List (List String × Tree)} {found : List Case} :
    scan directory visits = .ok found ↔
      (∀ v ∈ visits, v.2.isDir = true →
        (pathBelow directory v.1).text.utf8ByteSize ≤ Disk.pathLimit) ∧
      found = (visits.filter fun v => v.2.isRegular && isScript v.1).map
        fun v => Case.below directory v.1 := by
  induction visits generalizing found with
  | nil =>
    rw [scan, Except.ok.injEq, eq_comm]
    simp
  | cons v visits ih =>
    obtain ⟨location, u⟩ := v
    rw [scan, List.forall_mem_cons]
    by_cases hlong : u.isDir = true ∧
        Disk.pathLimit < (pathBelow directory location).text.utf8ByteSize
    · rw [if_pos (by simpa using hlong)]
      exact iff_of_false (by simp [throw, throwThe, MonadExceptOf.throw, bind, Except.bind]) fun h =>
        absurd (h.1.1 hlong.1) (Nat.not_le.2 hlong.2)
    · have hfits : u.isDir = true →
          (pathBelow directory location).text.utf8ByteSize ≤ Disk.pathLimit :=
        fun hdir => Nat.not_lt.1 fun hlt => hlong ⟨hdir, hlt⟩
      rw [if_neg (by simpa using hlong)]
      cases hscan : scan directory visits with
      | error e =>
        refine iff_of_false (by simp [bind, Except.bind]) fun h => ?_
        cases hscan.symm.trans (ih.2 ⟨h.1.2, rfl⟩)
      | ok rest =>
        obtain ⟨hrest, rfl⟩ := ih.1 hscan
        show Except.ok _ = Except.ok found ↔ _
        rw [Except.ok.injEq, eq_comm, List.filter_cons]
        refine Iff.trans (Eq.congr_right ?_) (and_iff_right ⟨hfits, hrest⟩).symm
        split <;> rfl

/-- The locations of the script files in a tree, in the order of a walk. -/
def scripts (t : Tree) : List (List String) :=
  (t.tour.filter fun v => v.2.isRegular && isScript v.1).map Prod.fst

theorem mem_scripts_iff {t : Tree} (ht : t.IsProper) (location : List String) :
    location ∈ scripts t ↔ IsScriptAt t location := by
  simp only [scripts, List.mem_map, List.mem_filter, Bool.and_eq_true, isScript_iff, IsScriptAt]
  constructor
  · rintro ⟨⟨_, u⟩, ⟨hmem, hregular, hscript⟩, rfl⟩
    exact ⟨⟨u, (Tree.mem_tour_iff ht _ u).1 hmem, hregular⟩, hscript⟩
  · rintro ⟨⟨u, hget, hregular⟩, hscript⟩
    exact ⟨(location, u), ⟨(Tree.mem_tour_iff ht _ u).2 hget, hregular, hscript⟩, rfl⟩

theorem scripts_sorted {t : Tree} (ht : t.IsProper) : (scripts t).Pairwise (· < ·) :=
  List.pairwise_map.2 ((Tree.tour_sorted ht).filter _)

theorem discover_of_dir {disk : Disk} {path : Path} {t : Tree} (hfind : disk.find path = .ok t)
    (hdir : t.isDir = true) (tests : List Case) :
    discover disk path tests =
      match scan path t.tour with
      | .ok found => (.ok found.length, tests ++ found)
      | .error e => (.error e, tests) := by
  cases t with
  | dir entries traits =>
    have hfile : disk.isFile path = false := by rw [Disk.isFile, hfind]
    rw [discover, hfile, hfind]
    rfl
  | _ => cases hdir

/-- If there is an error, no test is registered. -/
theorem discover_error {disk : Disk} {path : Path} {tests : List Case} {e : SuiteError}
    (h : (discover disk path tests).1 = .error e) : (discover disk path tests).2 = tests := by
  unfold discover at h ⊢
  split
  · next hfile => rw [if_pos hfile] at h; cases h
  · next hfile =>
    rw [if_neg hfile] at h
    split
    · next hfind =>
      rw [hfind] at h
      simp only at h
      split
      · next hscan => rw [hscan] at h; cases h
      · rfl
    · rfl

/-- Which tests a directory holds. If there is an error, at this or any other path, the tests that were
registered stay as they are. There is one exactly if the path of a directory below is too long. If there
is none, the script files are registered behind the others, each once and in the order of their
locations, name by name, and counted. The name of each is its location without the extension, except
for a file named `..ui`, which is called `..`; so the new names are different from each other unless
there is a file named `...ui` besides it. -/
theorem discovery (disk : Disk) (path : Path) (tests : List Case) :
    (∀ e, (discover disk path tests).1 = .error e → (discover disk path tests).2 = tests) ∧
    ∀ t, disk.find path = .ok t → t.isDir = true → t.IsProper →
      ((∃ n, (discover disk path tests).1 = .ok n) ↔
        ∀ l u, t.get? l = some u → u.isDir = true →
          (pathBelow path l).text.utf8ByteSize ≤ Disk.pathLimit) ∧
      ∀ n, (discover disk path tests).1 = .ok n →
        ∃ locations : List (List String),
          (discover disk path tests).2 = tests ++ locations.map (Case.below path) ∧
          n = locations.length ∧ locations.Pairwise (· < ·) ∧
          (∀ l, l ∈ locations ↔ IsScriptAt t l) ∧
          (∀ l ∈ locations, (Case.below path l).path = pathBelow path l ∧
            (l.getLastD "" ≠ "..ui" →
              (Case.below path l).name ++ ".ui" = String.intercalate "/" l) ∧
            (l.getLastD "" = "..ui" →
              (Case.below path l).name = String.intercalate "/" (l.dropLast ++ [".."]))) ∧
          ((locations.map fun l => (Case.below path l).name).Nodup ↔
            ¬∃ front, front ++ ["..ui"] ∈ locations ∧ front ++ ["...ui"] ∈ locations) := by
  refine ⟨fun e => discover_error, fun t hfind hdir ht => ?_⟩
  have hvisits : (∀ v ∈ t.tour, v.2.isDir = true →
      (pathBelow path v.1).text.utf8ByteSize ≤ Disk.pathLimit) ↔
      ∀ l u, t.get? l = some u → u.isDir = true →
        (pathBelow path l).text.utf8ByteSize ≤ Disk.pathLimit := by
    simp only [Prod.forall, Tree.mem_tour_iff ht]
  rw [discover_of_dir hfind hdir]
  cases hscan : scan path t.tour with
  | error e =>
    refine ⟨iff_of_false (by simp) fun hfits => ?_, fun n hn => by cases hn⟩
    cases hscan.symm.trans (scan_eq_ok_iff.2 ⟨hvisits.2 hfits, rfl⟩)
  | ok found =>
    obtain ⟨hfits, rfl⟩ := scan_eq_ok_iff.1 hscan
    refine ⟨iff_of_true ⟨_, rfl⟩ (hvisits.1 hfits), fun n hn => ?_⟩
    cases hn
    have hscripts : ∀ l ∈ scripts t, IsScriptAt t l := fun l => (mem_scripts_iff ht l).1
    have hsorted := scripts_sorted ht
    refine ⟨scripts t, ?_, ?_, hsorted, mem_scripts_iff ht,
      fun l hl => ⟨rfl, fun hlast => name_append_extension ht (hscripts l hl) hlast path,
        fun hlast => name_of_point ht (hscripts l hl) hlast path⟩,
      names_nodup_iff ht hscripts (hsorted.imp fun h => ne_of_lt h) path⟩
    · rw [scripts, List.map_map]
      rfl
    · rw [scripts, List.length_map, List.length_map]

/-- A directory with scripts that a point or two name, one that has no name at all, and a directory that
is named like a script. -/
def pointed : Tree :=
  .ofEntries [("...ui", .ofBytes [] false), ("..ui", .ofBytes [] false), (".ui", .ofBytes [] false),
    ("a.ui", .ofEntries [("b.ui", .ofBytes [] false)])]

theorem pointed_isProper : pointed.IsProper := by
  refine .dir (by decide) (by decide) ?_
  simp only [List.forall_mem_cons, List.not_mem_nil, IsEmpty.forall_iff, implies_true, and_true]
  refine ⟨.leaf rfl, .leaf rfl, .leaf rfl, .dir (by decide) (by decide) ?_⟩
  simp only [List.mem_singleton, forall_eq]
  exact .leaf rfl

def pointedDisk : Disk := { root := .ofEntries [("t", pointed)] }

theorem find_pointed : pointedDisk.find ⟨"t"⟩ = .ok pointed := by
  have hplace : pointedDisk.place ⟨"t"⟩ = .ok (.taken ["t"] pointed) := by
    rw [Disk.place, if_neg (by decide), if_neg (by decide), if_neg (by decide),
      if_neg (by decide), show (Path.mk "t").segments = [['t']] by decide]
    simp [Disk.follow, pointedDisk, pointed, Tree.get?, Tree.ofEntries, Tree.isDir, Tree.child?,
      Disk.nameLimit, show "t".utf8ByteSize ≤ 255 by decide]
  rw [Disk.find, hplace]

theorem scan_pointed : scan ⟨"t"⟩ pointed.tour =
    .ok [⟨"..", ⟨"t/...ui"⟩⟩, ⟨"..", ⟨"t/..ui"⟩⟩, ⟨"a.ui/b", ⟨"t/a.ui/b.ui"⟩⟩] := by
  have hsorted : ∀ {α : Type} (entries : List (String × α)),
      (entries.Pairwise fun a b => decide (a.1 ≤ b.1) = true) → Tree.byName entries = entries :=
    fun entries h => List.mergeSort_of_pairwise h
  simp only [pointed, Tree.ofEntries, Tree.ofBytes, Tree.tour, Tree.tourEntries]
  rw [hsorted, hsorted]
  · decide +kernel
  all_goals simp

/-- Two of the three scripts there get the same name. -/
theorem discovery_pointed :
    pointedDisk.find ⟨"t"⟩ = .ok pointed ∧ pointed.IsProper ∧
    (discover pointedDisk ⟨"t"⟩ []).1 = .ok 3 ∧
    ∃ locations : List (List String),
      (discover pointedDisk ⟨"t"⟩ []).2 = locations.map (Case.below ⟨"t"⟩) ∧
      (discover pointedDisk ⟨"t"⟩ []).2.map (·.name) = ["..", "..", "a.ui/b"] ∧
      locations.Pairwise (· < ·) ∧ (∀ l, l ∈ locations ↔ IsScriptAt pointed l) ∧
      ∃ front, front ++ ["..ui"] ∈ locations ∧ front ++ ["...ui"] ∈ locations := by
  have hfound : discover pointedDisk ⟨"t"⟩ [] = (.ok 3,
      [⟨"..", ⟨"t/...ui"⟩⟩, ⟨"..", ⟨"t/..ui"⟩⟩, ⟨"a.ui/b", ⟨"t/a.ui/b.ui"⟩⟩]) := by
    rw [discover_of_dir find_pointed rfl, scan_pointed]
    rfl
  obtain ⟨-, hdir⟩ := discovery pointedDisk ⟨"t"⟩ []
  obtain ⟨locations, htests, -, hsorted, hscripts, -, hnames⟩ :=
    (hdir pointed find_pointed rfl pointed_isProper).2 3 (by rw [hfound])
  have htwice : ¬(locations.map fun l => (Case.below ⟨"t"⟩ l).name).Nodup := by
    have heq : (locations.map fun l => (Case.below ⟨"t"⟩ l).name) = ["..", "..", "a.ui/b"] := by
      rw [hfound] at htests
      exact (List.map_map ..).symm.trans (congrArg (List.map (·.name)) htests).symm
    rw [heq]
    decide
  refine ⟨find_pointed, pointed_isProper, by rw [hfound], locations, htests, by rw [hfound]; rfl,
    hsorted, hscripts, ?_⟩
  exact not_not.1 fun hnone => htwice (hnames.2 hnone)

end Suite

end PageScript
