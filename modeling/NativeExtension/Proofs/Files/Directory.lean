import NativeExtension.Proofs.Files.Barred
import NativeExtension.Proofs.Files.Child
import NativeExtension.Proofs.Files.Scaffold

namespace NativeExtension

theorem PlainName.exists_append_eq_toString_child {name : String} (h : PlainName name)
    (directory : Path) : ∃ front, (directory.child name).toString.toList = front ++ name.toList := by
  obtain htext | ⟨front, htext⟩ := h.exists_toString_child directory
  · exact ⟨[], by simp [htext]⟩
  · exact ⟨front ++ ['/'], by simp [htext]⟩

/-- Behind a plain name there is no slash to be taken away. -/
theorem PlainName.withoutSlashes_child {name : String} (h : PlainName name) (directory : Path) :
    FileTree.withoutSlashes (directory.child name).toString = (directory.child name).toString := by
  obtain ⟨front, htext⟩ := h.exists_append_eq_toString_child directory
  have hname : name.toList ≠ [] := by simpa using h.ne_empty
  have hlast : name.toList.getLast hname ≠ '/' := fun hslash =>
    h.no_slash (hslash ▸ List.getLast_mem hname)
  have hreverse : (directory.child name).toString.toList.reverse =
      name.toList.getLast hname :: (front ++ name.toList.dropLast).reverse := by
    have hsplit := congrArg List.reverse (List.dropLast_concat_getLast hname)
    rw [List.reverse_concat] at hsplit
    rw [htext, List.reverse_append, List.reverse_append, ← hsplit, List.cons_append]
  have hkept : (directory.child name).toString.toList.reverse.dropWhile (· == '/') =
      (directory.child name).toString.toList.reverse := by
    rw [hreverse, List.dropWhile_cons_of_neg (by simpa using hlast)]
  unfold FileTree.withoutSlashes
  rw [hkept, List.reverse_reverse]
  split
  · rfl
  · simp

namespace FileTree

variable {t u : FileTree} {path : Path}

theorem isDirectory_iff : t.isDirectory path = .ok true ↔
    path.toString.toList.contains '\x00' = false ∧
      ∃ l mode, t.find path.toString = .ok (l, .directory mode) := by
  unfold isDirectory status?
  dsimp only
  cases hnul : path.toString.toList.contains '\x00' with
  | true => simp [Bind.bind, Except.bind, pure, Except.pure]
  | false =>
    rcases hfind : t.find path.toString with e | ⟨l, e⟩
    · cases e <;> simp [Bind.bind, Except.bind, pure, Except.pure]
    · cases e <;> simp [Bind.bind, Except.bind, pure, Except.pure]

theorem isDirectory_of_unlessDirectory {fault : Fault}
    (h : t.unlessDirectory path fault = .ok ()) : t.isDirectory path = .ok true := by
  unfold unlessDirectory at h
  split at h
  · obtain ⟨found, hfound, h⟩ := bind_eq_ok_iff.mp h
    cases found with
    | true => exact hfound
    | false => exact absurd h throw_ne_ok
  · cases h

section Making

variable (hslash : withoutSlashes path.toString = path.toString)

include hslash

theorem isDirectory_of_makeDirectory (h : t.makeDirectory path.toString = .ok u) :
    u.isDirectory path = .ok true := by
  have hways := (makeDirectory_scaffold h).keepsWays
  unfold makeDirectory at h
  obtain ⟨_, hnul, h⟩ := bind_eq_ok_iff.mp h
  obtain ⟨l, hresolve, h⟩ := bind_eq_ok_iff.mp h
  rw [faultAbout_eq_ok_iff, hslash] at hresolve
  split at h
  next hnone =>
    split at h
    next =>
      rw [pure_eq_ok_iff] at h
      have hget : u.get? l = some (.directory newDirectoryMode) :=
        h ▸ get?_put_self (ne_root_of_none hnone) _
      have hlink := resolve_eq_ok_iff.mp (hways.resolve_eq_ok hresolve (.inl rfl))
      have htarget := hlink.2.2.target_of_link fun text => by simp [hget, wayOf]
      refine isDirectory_iff.mpr ⟨?_, l, _, find_eq_ok_iff.mpr ⟨?_, hget⟩⟩
      · unfold checkNul at hnul
        split at hnul
        next => cases hnul
        next hfree => simpa using hfree
      · exact resolve_eq_ok_iff.mpr ⟨hlink.1, hlink.2.1, htarget⟩
    next => exact absurd h throw_ne_ok
  next => exact absurd h throw_ne_ok

theorem isDirectory_of_makeLast (h : (t.makeLast path).1 = .ok ()) :
    (t.makeLast path).2.isDirectory path = .ok true := by
  unfold makeLast at h ⊢
  cases hmake : t.makeDirectory path.toString with
  | ok u => exact isDirectory_of_makeDirectory hslash hmake
  | error fault =>
    simp only [hmake] at h ⊢
    split
    next hmissing => simp [hmissing] at h
    next hmissing =>
      rw [if_neg hmissing] at h
      exact isDirectory_of_unlessDirectory h

theorem isDirectory_of_makeDirectories {calls : Nat}
    (h : (t.makeDirectories path calls).1 = .ok ()) :
    (t.makeDirectories path calls).2.isDirectory path = .ok true := by
  cases calls with
  | zero => cases h
  | succ calls =>
  unfold makeDirectories at h ⊢
  cases hmake : t.makeDirectory path.toString with
  | ok u => exact isDirectory_of_makeDirectory hslash hmake
  | error fault =>
    simp only [hmake] at h ⊢
    by_cases hmissing : isMissing fault = true
    · rw [if_pos hmissing] at h ⊢
      by_cases hparts : path.parts = []
      · simp [hparts] at h
      rw [if_neg hparts] at h ⊢
      generalize t.makeDirectories path.parent calls = x at h ⊢
      obtain ⟨r, u⟩ := x
      cases r with
      | ok => exact isDirectory_of_makeLast hslash h
      | error => cases h
    · rw [if_neg hmissing] at h ⊢
      exact isDirectory_of_unlessDirectory h

/-- What is made is a directory afterwards. -/
theorem isDirectory_of_ensureDirectory (h : (t.ensureDirectory path).1 = .ok ()) :
    (t.ensureDirectory path).2.isDirectory path = .ok true :=
  isDirectory_of_makeDirectories hslash h

/-- Making a directory that is there changes nothing. -/
theorem ensureDirectory_eq (h : t.isDirectory path = .ok true) :
    t.ensureDirectory path = (.ok (), t) := by
  obtain ⟨hnul, l, mode, hfind⟩ := isDirectory_iff.mp h
  obtain ⟨htarget, hget⟩ := find_eq_ok_iff.mp hfind
  have hthere : ∃ m e, t.resolve .link path.toString = .ok m ∧ t.get? m = some e := by
    obtain ⟨hempty, hshort, hleads⟩ := resolve_eq_ok_iff.mp htarget
    obtain hlink | ⟨m, target, hlink, hm⟩ := hleads.link_of_target
    · exact ⟨l, _, resolve_eq_ok_iff.mpr ⟨hempty, hshort, hlink⟩, hget⟩
    · exact ⟨m, _, resolve_eq_ok_iff.mpr ⟨hempty, hshort, hlink⟩, wayOf_eq_link.mp hm⟩
  obtain ⟨m, e, hresolve, hm⟩ := hthere
  have hexists : t.makeDirectory path.toString =
      .error (.system (.about .alreadyExists path.toString)) := by
    unfold makeDirectory checkNul
    rw [hnul, hslash, hresolve]
    simp [faultAbout, Bind.bind, Except.bind, hm, throw, throwThe, MonadExceptOf.throw]
  have hmissing : isMissing (.system (.about .alreadyExists path.toString)) = false := rfl
  obtain ⟨calls, hcalls⟩ : ∃ calls, callLimit = calls + 1 := ⟨_, rfl⟩
  rw [ensureDirectory, hcalls, makeDirectories]
  simp [hexists, hmissing, unlessDirectory, h, Bind.bind, Except.bind, pure, Except.pure]

end Making

section Open

/-- A tree without links. -/
def LinkFree (t : FileTree) : Prop := ∀ l target, t.get? l ≠ some (.link target)

/-- Nothing bars a walk to a name in a directory to which a walk leads, where there are no links. -/
theorem Leads.not_barred {aim : Aim} {fewer links : Nat} {here d m : Location}
    {names staying : List String} {name : String} (hfree : t.LinkFree) (hname : PlainName name)
    {mode : Nat} (h : Leads t .target fewer here (names ++ staying) d)
    (hd : t.get? d = some (.directory mode)) :
    ¬ Barred t aim links here (names ++ [name]) m := by
  have unlinked {l : Location} {target : String} (hway : wayOf (t.get? l) = .link target) : False :=
    hfree l target (wayOf_eq_link.mp hway)
  induction names generalizing here with
  | nil =>
    intro hbarred
    cases hbarred with
    | same hself _ => exact absurd hself (by simp [hname.ne_empty, hname.ne_here])
    | up _ _ => exact hname.ne_up rfl
    | onward _ _ _ tail => cases tail
    | stop _ _ hmore _ => exact hmore rfl
    | follow _ _ hway _ _ => exact unlinked hway
  | cons first rest ih =>
    intro hbarred
    rw [List.cons_append] at h
    generalize hafter : rest ++ staying = after at h
    cases h with
    | same hself tail =>
      cases hbarred with
      | same _ htail => exact ih (hafter ▸ tail) htail
      | up _ _ => simp at hself
      | onward hentry _ _ _ => exact absurd hself (by simp [hentry.ne_empty, hentry.ne_here])
      | stop hentry _ _ _ => exact absurd hself (by simp [hentry.ne_empty, hentry.ne_here])
      | follow hentry _ _ _ _ => exact absurd hself (by simp [hentry.ne_empty, hentry.ne_here])
    | up _ tail =>
      cases hbarred with
      | same hself _ => simp at hself
      | up _ htail => exact ih (hafter ▸ tail) htail
      | onward hentry _ _ _ => exact hentry.ne_up rfl
      | stop hentry _ _ _ => exact hentry.ne_up rfl
      | follow hentry _ _ _ _ => exact hentry.ne_up rfl
    | onward hentry _ hway tail =>
      cases hbarred with
      | same hself _ => exact absurd hself (by simp [hentry.ne_empty, hentry.ne_here])
      | up _ _ => exact hentry.ne_up rfl
      | onward _ _ _ htail => exact ih (hafter ▸ tail) htail
      | stop _ _ _ hstop => simp [hway] at hstop
      | follow _ _ hlink _ _ => exact unlinked hlink
    | stop _ hway => simp [hd, wayOf] at hway
    | link _ _ hway => exact unlinked hway
    | follow _ _ hway _ _ => exact unlinked hway

/-- Nothing bars the way to a name in a directory that is there, where there are no links. -/
theorem not_bars_child {directory : Path} {name : String} {d m : Location} {aim : Aim}
    (hfree : t.LinkFree) (hname : PlainName name) (hdirectory : directory.toString ≠ "")
    {mode : Nat} (hfind : t.find directory.toString = .ok (d, .directory mode)) :
    ¬ t.Bars aim (directory.child name).toString m := by
  intro hbars
  obtain ⟨names, staying, hwalks⟩ := walksBelow_child hname hdirectory
  obtain ⟨hresolve, hd⟩ := find_eq_ok_iff.mp hfind
  obtain ⟨-, -, hleads⟩ := resolve_eq_ok_iff.mp hresolve
  have hbarred := hbars.barred
  rw [hwalks.directory_names] at hleads
  rw [hwalks.child_names, hwalks.origin_eq] at hbarred
  exact hleads.not_barred hfree hname hd hbarred

end Open

end FileTree

end NativeExtension
