import SchemaFragments.Proofs.Files.Location
import Std.Data.ExtTreeMap.Lemmas

/-! # What file operations change

A file operation that succeeds changes what lies at one location and nothing else (`write_ok`,
`remove_ok`).  A writing that fails may have opened its file and left a part of the content there, and
that is all it changes (`write_failed`).  A `FileChange` says what one file of a folder is to hold, or
that it is not to be there; after several of them a location holds what the last change to it says
(`entry?_putAll_last`), and a location that none of them is about holds what it held
(`entry?_putAll_of_ne`).  Changes that later ones cover leave no trace (`putAll_putAll_of_subset`), and
of the order of changes only that of the changes to one file matters (`putAll_congr`).

Making a folder and the folders above it leaves every entry as it was and adds nothing but folders
on the way, whether or not it succeeds (`foldersAdded_makeFolders`); if it does the folders are there
(`walkable_makeFolders`). -/

namespace SchemaFragments

open SchemaFragments.Path

namespace FileTree

variable {t t' : FileTree} {l : Location} {p : Path}

/-! ### Entries -/

theorem entry?_nil (t : FileTree) : t.entry? [] = some .folder := if_pos rfl

theorem entry?_set (t : FileTree) {l : Location} (h : l ≠ []) (e : Entry) (l' : Location) :
    entry? (t.set l e) l' = if l' = l then some e else t.entry? l' := by
  unfold entry? set
  by_cases h0 : l' = []
  · subst h0
    rw [if_pos rfl, if_neg (Ne.symm h), if_pos rfl]
  · rw [if_neg h0, if_neg h0, Std.ExtTreeMap.getElem?_insert]
    simp only [Std.LawfulEqCmp.compare_eq_iff_eq, @eq_comm _ l' l]

theorem entry?_clear (t : FileTree) {l : Location} (h : l ≠ []) (l' : Location) :
    entry? (t.clear l) l' = if l' = l then none else t.entry? l' := by
  unfold entry? clear
  by_cases h0 : l' = []
  · subst h0
    rw [if_pos rfl, if_neg (Ne.symm h), if_pos rfl]
  · rw [if_neg h0, if_neg h0, Std.ExtTreeMap.getElem?_erase]
    simp only [Std.LawfulEqCmp.compare_eq_iff_eq, @eq_comm _ l' l]

theorem clear_of_absent (h : l ≠ []) (ha : t.entry? l = none) : t.clear l = t := by
  obtain ⟨entries⟩ := t
  unfold clear
  congr 1
  apply Std.ExtTreeMap.ext_getElem?
  intro l'
  rw [Std.ExtTreeMap.getElem?_erase]
  split
  · next he =>
      obtain rfl := Std.LawfulEqCmp.compare_eq_iff_eq.mp he
      unfold entry? at ha
      rw [if_neg h] at ha
      exact ha.symm
  · rfl

end FileTree

/-! ### Changes of files -/

/-- A file of a folder and what it is to hold; nothing if the file is not to be there. -/
structure FileChange where
  folder : Location
  name : Text
  content? : Option Content

/-- The location of the file. -/
def FileChange.location (c : FileChange) : Location := c.folder ++ [c.name]

theorem FileChange.location_ne_nil (c : FileChange) : c.location ≠ [] := by simp [location]

namespace FileTree

variable {t t' : FileTree} {l : Location} {p : Path}

/-- The tree after a change. -/
def put (t : FileTree) (c : FileChange) : FileTree :=
  match c.content? with
  | some content => t.set c.location (.file content)
  | none => t.clear c.location

/-- The tree after some changes, one after the other. -/
def putAll (t : FileTree) (cs : List FileChange) : FileTree := cs.foldl put t

theorem entry?_put (t : FileTree) (c : FileChange) (l : Location) :
    entry? (t.put c) l = if l = c.location then c.content?.map .file else t.entry? l := by
  unfold put
  cases hc : c.content? with
  | some content => exact entry?_set t c.location_ne_nil _ l
  | none => exact entry?_clear t c.location_ne_nil l

theorem putAll_cons (t : FileTree) (c : FileChange) (cs : List FileChange) :
    t.putAll (c :: cs) = (t.put c).putAll cs := rfl

theorem putAll_append (t : FileTree) (cs ds : List FileChange) :
    t.putAll (cs ++ ds) = (t.putAll cs).putAll ds := List.foldl_append

theorem entry?_putAll_of_ne {cs : List FileChange} (h : ∀ c ∈ cs, l ≠ c.location) (t : FileTree) :
    entry? (t.putAll cs) l = t.entry? l := by
  induction cs generalizing t with
  | nil => rfl
  | cons c cs ih =>
      rw [putAll_cons, ih (fun d hd => h d (List.mem_cons_of_mem _ hd)), entry?_put,
        if_neg (h c List.mem_cons_self)]

/-- A location holds what the last change to it says. -/
theorem entry?_putAll_last {before after : List FileChange} {c : FileChange}
    (h : ∀ d ∈ after, c.location ≠ d.location) (t : FileTree) :
    entry? (t.putAll (before ++ c :: after)) c.location = c.content?.map .file := by
  rw [putAll_append, putAll_cons, entry?_putAll_of_ne h, entry?_put, if_pos rfl]

theorem entry?_putAll_of_not_mem {cs : List FileChange} (h : l ∉ cs.map (·.location)) (t : FileTree) :
    entry? (t.putAll cs) l = t.entry? l :=
  entry?_putAll_of_ne (fun c hc heq => h (List.mem_map.mpr ⟨c, hc, heq.symm⟩)) t

/-- A location that some changes are about holds what one of them says. -/
theorem exists_entry?_putAll {cs : List FileChange} (h : l ∈ cs.map (·.location)) (t : FileTree) :
    ∃ c ∈ cs, entry? (t.putAll cs) l = c.content?.map .file := by
  induction cs generalizing t with
  | nil => cases h
  | cons c cs ih =>
      by_cases hlater : l ∈ cs.map (·.location)
      · obtain ⟨d, hd, hentry⟩ := ih hlater (t.put c)
        exact ⟨d, List.mem_cons_of_mem _ hd, hentry⟩
      · have hl : l = c.location := (List.mem_cons.mp h).resolve_right hlater
        refine ⟨c, List.mem_cons_self, ?_⟩
        rw [putAll_cons, entry?_putAll_of_not_mem hlater, entry?_put, if_pos hl]

/-! ### Changes that cover others -/

theorem ext_entries (h : ∀ l : Location, t.entries[l]? = t'.entries[l]?) : t = t' := by
  obtain ⟨entries⟩ := t
  obtain ⟨entries'⟩ := t'
  congr 1
  exact Std.ExtTreeMap.ext_getElem? fun {l} => h l

theorem entries_put (t : FileTree) (c : FileChange) (l : Location) :
    (t.put c).entries[l]? = if l = c.location then c.content?.map .file else t.entries[l]? := by
  unfold put
  cases c.content? with
  | some content =>
      unfold set
      rw [Std.ExtTreeMap.getElem?_insert]
      simp only [Std.LawfulEqCmp.compare_eq_iff_eq, @eq_comm _ l, Option.map_some]
  | none =>
      unfold clear
      rw [Std.ExtTreeMap.getElem?_erase]
      simp only [Std.LawfulEqCmp.compare_eq_iff_eq, @eq_comm _ l, Option.map_none]

/-- Of two changes of one file the first does not matter. -/
theorem put_put_of_eq {c d : FileChange} (h : c.location = d.location) (t : FileTree) :
    (t.put c).put d = t.put d := by
  apply ext_entries
  intro l
  rw [entries_put, entries_put, entries_put, h]
  split <;> rfl

/-- Changes of different files can be made in any order. -/
theorem put_comm {c d : FileChange} (h : c.location ≠ d.location) (t : FileTree) :
    (t.put c).put d = (t.put d).put c := by
  apply ext_entries
  intro l
  rw [entries_put, entries_put, entries_put, entries_put]
  split_ifs with hd hc
  · exact absurd (hc.symm.trans hd) h
  · rfl
  · rfl
  · rfl

theorem putAll_put_of_mem {c : FileChange} {ds : List FileChange}
    (h : c.location ∈ ds.map (·.location)) (t : FileTree) : (t.put c).putAll ds = t.putAll ds := by
  induction ds generalizing t with
  | nil => cases h
  | cons d ds ih =>
      rw [putAll_cons, putAll_cons]
      by_cases hd : c.location = d.location
      · rw [put_put_of_eq hd]
      · rw [put_comm hd, ih ((List.mem_cons.mp h).resolve_left hd)]

/-- Changes do not matter if further changes are about all their files. -/
theorem putAll_putAll_of_subset {cs ds : List FileChange}
    (h : ∀ c ∈ cs, c.location ∈ ds.map (·.location)) (t : FileTree) :
    (t.putAll cs).putAll ds = t.putAll ds := by
  induction cs generalizing t with
  | nil => rfl
  | cons c cs ih =>
      rw [List.forall_mem_cons] at h
      rw [putAll_cons, ih h.2, putAll_put_of_mem h.1]

/-! ### The order of changes -/

/-- What a location holds after some changes is decided by those that are about it. -/
theorem entries_putAll (t : FileTree) (cs : List FileChange) (l : Location) :
    (t.putAll cs).entries[l]? =
      (cs.filter (·.location = l)).foldl (fun _ c => c.content?.map .file) t.entries[l]? := by
  induction cs generalizing t with
  | nil => rfl
  | cons c cs ih =>
      rw [putAll_cons, ih, entries_put]
      by_cases hl : c.location = l
      · rw [if_pos hl.symm, List.filter_cons_of_pos (by simpa using hl), List.foldl_cons]
      · rw [if_neg (Ne.symm hl), List.filter_cons_of_neg (by simpa using hl)]

/-- Changes with the same order for every single file leave the same tree. -/
theorem putAll_congr {cs ds : List FileChange}
    (h : ∀ l, cs.filter (·.location = l) = ds.filter (·.location = l)) (t : FileTree) :
    t.putAll cs = t.putAll ds := by
  apply ext_entries
  intro l
  rw [entries_putAll, entries_putAll, h l]

/-! ### Writing and removing -/

/-- What a writing that fails leaves of a tree. -/
inductive FailedWrite (t : FileTree) (p : Path) (c : Content) : FileTree → Prop
  /-- The file has not been opened. -/
  | unopened : FailedWrite t p c t
  /-- The file has been opened, and of the content some bytes are there but not all. -/
  | cutShort {l : Location} {n : Nat} (located : t.locate p = .ok l)
      (no_folder : t.entry? l ≠ some .folder) (short : n < c.toBytes.size) :
      FailedWrite t p c (t.set l (.file (c.front n)))

section writing

variable {c : Content} {m : Medium} {r : Except FileFault Unit}

/-- A writing puts the whole content where the path leads, or it fails. -/
theorem write_cases (h : t.write p c m = (t', r)) :
    (∃ l, t.locate p = .ok l ∧ ¬ (t.entry? l = some .folder ∨ endsAsFolder p) ∧
        t' = t.set l (.file c) ∧ r = .ok ()) ∨
      ∃ e, t.FailedWrite p c t' ∧ r = .error e := by
  unfold write at h
  cases hl : t.locate p with
  | error e =>
      rw [hl] at h
      cases h
      exact .inr ⟨e, .unopened, rfl⟩
  | ok l =>
      simp only [hl] at h
      by_cases hfolder : t.entry? l = some .folder ∨ endsAsFolder p
      · rw [if_pos hfolder] at h
        cases h
        exact .inr ⟨_, .unopened, rfl⟩
      · rw [if_neg hfolder] at h
        cases hw : m.writing t l c with
        | whole =>
            simp only [hw] at h
            cases h
            exact .inl ⟨l, rfl, hfolder, rfl, rfl⟩
        | unopened e =>
            simp only [hw] at h
            cases h
            exact .inr ⟨e, .unopened, rfl⟩
        | cutShort n e =>
            simp only [hw] at h
            split_ifs at h with hn
            · cases h
              exact .inr ⟨e, .cutShort hl (fun hent => hfolder (.inl hent)) hn, rfl⟩
            · cases h
              exact .inl ⟨l, rfl, hfolder, rfl, rfl⟩

theorem write_of_located (hl : t.locate p = .ok l) (h : ¬ (t.entry? l = some .folder ∨ endsAsFolder p))
    (c : Content) : t.write p c = (t.set l (.file c), .ok ()) := by
  unfold write
  simp only [hl, if_neg h, Medium.boundless]

/-- What can be written on some medium can be written on one that takes whatever is written. -/
theorem write_boundless (h : t.write p c m = (t', .ok ())) : t.write p c = (t', .ok ()) := by
  rcases write_cases h with ⟨l, hl, hfile, rfl, -⟩ | ⟨e, -, he⟩
  · exact write_of_located hl hfile c
  · cases he

theorem write_ok (hl : t.locate p = .ok l) (h : t.write p c = (t', .ok ())) :
    t.entry? l ≠ some .folder ∧ t' = t.set l (.file c) := by
  rcases write_cases h with ⟨l', hl', hfile, rfl, -⟩ | ⟨e, -, he⟩
  · cases hl.symm.trans hl'
    exact ⟨fun hent => hfile (.inl hent), rfl⟩
  · cases he

theorem write_failed {e : FileFault} (h : t.write p c m = (t', .error e)) : t.FailedWrite p c t' := by
  rcases write_cases h with ⟨l, -, -, -, he⟩ | ⟨e', hfailed, -⟩
  · cases he
  · exact hfailed

end writing

theorem remove_ok (hl : t.locate p = .ok l) (h : t.remove p = .ok t') :
    t.entry? l ≠ some .folder ∧ t' = t.clear l := by
  unfold remove at h
  simp only [hl] at h
  cases he : t.entry? l with
  | none => simp [he] at h
  | some e =>
      cases e with
      | folder => simp [he] at h
      | file c =>
          simp only [he] at h
          split_ifs at h
          exact ⟨by simp, (Except.ok.inj h).symm⟩

theorem remove_notFound (hl : t.locate p = .ok l) (h : t.remove p = .error .notFound) :
    t.entry? l = none := by
  unfold remove at h
  simp only [hl] at h
  cases he : t.entry? l with
  | none => rfl
  | some e =>
      cases e with
      | folder => simp [he] at h
      | file c =>
          simp only [he] at h
          split_ifs at h
          cases h

/-- A file that is written or removed takes no folder away. -/
theorem foldersWithin_put {c : FileChange} (h : t.entry? c.location ≠ some .folder) :
    t.FoldersWithin (t.put c) := by
  intro l hl
  rw [entry?_put, if_neg, hl]
  rintro rfl
  exact h hl

/-! ### Making folders -/

/-- The second tree has all entries of the first, and besides only folders at some locations. -/
structure FoldersAdded (new : Location → Prop) (t t' : FileTree) : Prop where
  kept : ∀ l e, t.entry? l = some e → t'.entry? l = some e
  added : ∀ l, t.entry? l = none → t'.entry? l ≠ none → t'.entry? l = some .folder ∧ new l

variable {new new' : Location → Prop}

theorem FoldersAdded.refl (new : Location → Prop) (t : FileTree) : FoldersAdded new t t :=
  ⟨fun _ _ h => h, fun _ h h' => absurd h h'⟩

theorem FoldersAdded.trans {t'' : FileTree} (h : FoldersAdded new t t')
    (h' : FoldersAdded new t' t'') : FoldersAdded new t t'' := by
  refine ⟨fun l e he => h'.kept l e (h.kept l e he), fun l hn ha => ?_⟩
  cases hl : t'.entry? l with
  | none => exact h'.added l hl ha
  | some e =>
      obtain ⟨hf, hnew⟩ := h.added l hn (by simp [hl])
      exact ⟨h'.kept l .folder hf, hnew⟩

theorem FoldersAdded.mono (h : FoldersAdded new t t') (hn : ∀ l, new l → new' l) :
    FoldersAdded new' t t' :=
  ⟨h.kept, fun l ha hp => (h.added l ha hp).imp_right (hn l)⟩

theorem FoldersAdded.entry?_ne_file {x : Content} (h : FoldersAdded new t t')
    (hx : t.entry? l ≠ some (.file x)) : t'.entry? l ≠ some (.file x) := by
  intro hl
  cases ht : t.entry? l with
  | none =>
      have hfolder := (h.added l ht (by simp [hl])).1
      rw [hl] at hfolder
      cases hfolder
  | some e =>
      have hkept := h.kept l e ht
      rw [hl] at hkept
      exact hx (ht.trans hkept.symm)

theorem FoldersAdded.foldersWithin (h : FoldersAdded new t t') : t.FoldersWithin t' :=
  fun l => h.kept l .folder

theorem foldersAdded_set (h : t.entry? l = none) : FoldersAdded (· = l) t (t.set l .folder) := by
  have h0 : l ≠ [] := by
    rintro rfl
    rw [entry?_nil] at h
    cases h
  constructor
  · intro l' e he
    rw [entry?_set t h0, if_neg, he]
    rintro rfl
    rw [h] at he
    cases he
  · intro l' hn ha
    rw [entry?_set t h0] at ha ⊢
    split_ifs at ha ⊢ with hl
    · exact ⟨rfl, hl⟩
    · exact absurd hn ha

theorem entry?_set_folder (h : t.entry? l = none) : entry? (t.set l .folder) l = some .folder := by
  have h0 : l ≠ [] := by
    rintro rfl
    rw [entry?_nil] at h
    cases h
  rw [entry?_set t h0, if_pos rfl]

theorem follow_of_locate (hl : t.locate p = .ok l) : t.follow [] (names p) = .ok l := by
  unfold locate at hl
  split_ifs at hl
  exact hl

/-- The location lies on the way on which names lead. -/
def OnWay (names : List Text) (l : Location) : Prop := ∃ front, front <+: names ∧ l = resolve front

theorem onWay_concat {names : List Text} {name : Text} :
    OnWay (names ++ [name]) l ↔ OnWay names l ∨ l = resolve (names ++ [name]) := by
  unfold OnWay
  constructor
  · rintro ⟨front, hf, rfl⟩
    rcases List.prefix_concat_iff.mp hf with rfl | hf
    · exact .inr rfl
    · exact .inl ⟨front, hf, rfl⟩
  · rintro (⟨front, hf, rfl⟩ | rfl)
    · exact ⟨front, hf.trans (List.prefix_append _ _), rfl⟩
    · exact ⟨_, List.prefix_rfl, rfl⟩

/-- Whether or not all folders could be made, nothing but folders on the way is new; if they could be
made, they are there. -/
theorem makeFoldersFrom_spec (t : FileTree) (above names : List Text) :
    FoldersAdded (OnWay (above ++ names)) t (t.makeFoldersFrom above names).1 ∧
      (t.Walkable [] above → (t.makeFoldersFrom above names).2 = .ok () →
        (t.makeFoldersFrom above names).1.Walkable [] (above ++ names)) := by
  induction names generalizing t above with
  | nil =>
      rw [List.append_nil]
      exact ⟨.refl _ _, fun hw _ => hw⟩
  | cons name rest ih =>
      have e : above ++ name :: rest = above ++ [name] ++ rest := by simp
      rw [e, makeFoldersFrom]
      have hway : OnWay (above ++ [name] ++ rest) (resolve (above ++ [name])) :=
        ⟨_, List.prefix_append _ _, rfl⟩
      cases hf : t.follow [] (above ++ [name]) with
      | error f =>
          simp only [makeFolder, isFolderAt, hf, Bool.false_eq_true, if_false]
          exact ⟨.refl _ t, fun _ h => nomatch h⟩
      | ok l =>
          obtain rfl : l = resolve (above ++ [name]) := follow_ok hf
          cases he : t.entry? (resolve (above ++ [name])) with
          | none =>
              simp only [makeFolder, hf, he, Option.isSome_none, Bool.false_eq_true, if_false]
              have ha := foldersAdded_set he
              obtain ⟨hadded, hwalk⟩ := ih (t.set (resolve (above ++ [name])) .folder) (above ++ [name])
              refine ⟨(ha.mono ?_).trans hadded, fun hw => hwalk ?_⟩
              · rintro _ rfl
                exact hway
              · exact walkable_concat (ha.foldersWithin.walkable hw) (ha.foldersWithin.follow hf)
                  (entry?_set_folder he)
          | some e =>
              simp only [makeFolder, isFolderAt, hf, he, Option.isSome_some, if_true]
              split_ifs with hd
              · have hd' : e = .folder := by simpa using hd
                subst hd'
                obtain ⟨hadded, hwalk⟩ := ih t (above ++ [name])
                exact ⟨hadded, fun hw => hwalk (walkable_concat hw hf he)⟩
              · exact ⟨.refl _ t, fun _ h => nomatch h⟩

/-- Making a folder leaves every entry as it was and adds nothing but folders on the way, even if it
fails. -/
theorem foldersAdded_makeFolders (t : FileTree) (p : Path) :
    FoldersAdded (OnWay (names p)) t (t.makeFolders p).1 := by
  unfold makeFolders
  split_ifs with hp
  · exact .refl _ t
  · cases hl : t.locate p with
    | error e =>
        cases e with
        | notFound => exact (makeFoldersFrom_spec t [] (names p)).1
        | _ => exact .refl _ t
    | ok l =>
        have hf := follow_of_locate hl
        cases he : t.entry? l with
        | none =>
            simp only [he]
            refine (foldersAdded_set he).mono ?_
            rintro _ rfl
            exact ⟨_, List.prefix_rfl, follow_ok hf⟩
        | some e =>
            cases e with
            | folder =>
                simp only [he]
                exact .refl _ t
            | file c =>
                simp only [he]
                exact .refl _ t

/-- Folders that were made successfully are there. -/
theorem walkable_makeFolders (h : t.makeFolders p = (t', .ok ())) : t'.Walkable [] (names p) := by
  unfold makeFolders at h
  split_ifs at h with hp
  · subst hp
    trivial
  · cases hl : t.locate p with
    | error e =>
        rw [hl] at h
        cases e with
        | notFound =>
            have hwalk := (makeFoldersFrom_spec t [] (names p)).2 trivial
            simp only at h
            rw [h] at hwalk
            exact hwalk rfl
        | _ => cases h
    | ok l =>
        rw [hl] at h
        have hf := follow_of_locate hl
        cases he : t.entry? l with
        | none =>
            simp only [he] at h
            cases h
            have ha := foldersAdded_set he
            exact walkable_of_follow (ha.foldersWithin.follow hf) (entry?_set_folder he)
        | some e =>
            cases e with
            | folder =>
                simp only [he] at h
                cases h
                exact walkable_of_follow hf he
            | file c =>
                simp only [he] at h
                cases h

/-- Folders that were made successfully are there, and nothing but folders on the way is new. -/
theorem makeFolders_ok (h : t.makeFolders p = (t', .ok ())) :
    t'.Walkable [] (names p) ∧ FoldersAdded (OnWay (names p)) t t' := by
  have hadded := foldersAdded_makeFolders t p
  rw [h] at hadded
  exact ⟨walkable_makeFolders h, hadded⟩

/-- The path of a folder that was made leads to it. -/
theorem locate_makeFolders (hp : p ≠ []) (h : t.makeFolders p = (t', .ok ())) :
    t'.locate p = .ok (resolve (names p)) := by
  have hw := (makeFolders_ok h).1
  unfold locate
  split_ifs with h0 h1
  · simp [makeFolders, locate, hp, h0] at h
  · simp [makeFolders, locate, hp, h0, h1] at h
  · exact follow_of_walkable hw

end FileTree

end SchemaFragments
