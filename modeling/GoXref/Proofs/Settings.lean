import GoXref.Proofs.Path
import GoXref.Settings

/-!
# `GoXref.Proofs.Settings`: the toolchain root

`GOPATH` lists directories between colons, and any of them may be missing. The
settings cut the list at its colons and take the first piece that is not empty.
Here the root is said by the text of the list, without a cut, and it decides
alone which program is run.

* `IsFirstEntry`: the root behind the leading colons, up to the next colon.
* `forall_colon_or_exists_isFirstEntry`: a list has one, or it is colons only.
* `root?_ofGopath_eq_some_iff`, `root?_ofGopath_eq_none_iff`: the root of a list.
* `executable_of_root?`: the program below a root, on every machine.
* `ofGopath_first_entry`: all of this, and the root of a list by its entries.
-/

set_option autoImplicit false

namespace GoXref.Settings

/-- A list of directories has `root` as the first that is not empty: colons only
stand in front of it, and behind it the list ends or goes on with a colon. -/
structure IsFirstEntry (value root : Text) : Prop where
  /-- The directory is not empty. -/
  ne_nil : root ≠ []
  /-- It is one entry. -/
  colon_notMem : ':' ∉ root
  /-- All of it is one entry, and those in front are empty. -/
  exists_eq : ∃ front rest, value = front ++ root ++ rest ∧ (∀ c ∈ front, c = ':') ∧
    (rest = [] ∨ rest.head? = some ':')

variable {value root : Text}

/-! ### The root of a list -/

/-- An empty entry in front is passed over. -/
theorem root?_ofGopath_cons_colon (value : Text) :
    (ofGopath (some (':' :: value))).root? = (ofGopath (some value)).root? := by
  have hcut : Host.entries (':' :: value) = [] :: Host.entries value :=
    List.splitOn_append_cons_self_of_not_mem List.not_mem_nil value
  rw [ofGopath, Option.bind_some, hcut, List.find?_cons_of_neg (by simp)]
  rfl

/-- So is any number of them. -/
theorem root?_ofGopath_append {front : Text} (hfront : ∀ c ∈ front, c = ':') (value : Text) :
    (ofGopath (some (front ++ value))).root? = (ofGopath (some value)).root? := by
  induction front with
  | nil => rfl
  | cons c front ih =>
      obtain ⟨rfl, hmore⟩ := List.forall_mem_cons.mp hfront
      rw [List.cons_append, root?_ofGopath_cons_colon, ih hmore]

/-- Colons alone name no directory. -/
theorem root?_ofGopath_of_forall_colon (hvalue : ∀ c ∈ value, c = ':') :
    (ofGopath (some value)).root? = none := by
  rw [← List.append_nil value, root?_ofGopath_append hvalue]
  rfl

/-- The first entry is found. -/
theorem IsFirstEntry.root?_ofGopath (h : IsFirstEntry value root) :
    (ofGopath (some value)).root? = some root := by
  obtain ⟨front, rest, rfl, hfront, hrest⟩ := h.exists_eq
  rw [List.append_assoc, root?_ofGopath_append hfront]
  have hcut : ∃ more, Host.entries (root ++ rest) = root :: more := by
    rcases hrest with rfl | hhead
    · exact ⟨[], by rw [List.append_nil, Host.entries, List.splitOn_eq_singleton h.colon_notMem]⟩
    · obtain ⟨rest, rfl⟩ := List.head?_eq_some_iff.mp hhead
      exact ⟨_, List.splitOn_append_cons_self_of_not_mem h.colon_notMem rest⟩
  obtain ⟨more, hcut⟩ := hcut
  rw [ofGopath, Option.bind_some, hcut, List.find?_cons_of_pos (by simpa using h.ne_nil)]

/-- A list is colons only, or it has a first entry. -/
theorem forall_colon_or_exists_isFirstEntry (value : Text) :
    (∀ c ∈ value, c = ':') ∨ ∃ root, IsFirstEntry value root := by
  induction value with
  | nil => exact .inl (by simp)
  | cons c value ih =>
      by_cases hc : c = ':'
      · subst hc
        rcases ih with hvalue | ⟨root, hne, hcolon, front, rest, rfl, hfront, hrest⟩
        · exact .inl (List.forall_mem_cons.mpr ⟨rfl, hvalue⟩)
        · exact .inr ⟨root, hne, hcolon, ':' :: front, rest, rfl,
            List.forall_mem_cons.mpr ⟨rfl, hfront⟩, hrest⟩
      · -- The entry starts here, and goes on up to the next colon.
        refine .inr ⟨(c :: value).takeWhile (· ≠ ':'), ?_, ?_, [],
          (c :: value).dropWhile (· ≠ ':'), ?_, by simp, ?_⟩
        · rw [List.takeWhile_cons_of_pos (by simpa using hc)]
          exact List.cons_ne_nil _ _
        · intro hmem
          have hne := List.all_eq_true.mp List.all_takeWhile ':' hmem
          simp at hne
        · rw [List.nil_append, List.takeWhile_append_dropWhile]
        · have hhead := List.head?_dropWhile_not (· ≠ ':') (c :: value)
          cases hrest : (c :: value).dropWhile (· ≠ ':') with
          | nil => exact .inl rfl
          | cons c' rest =>
              rw [hrest] at hhead
              exact .inr (by simpa using hhead)

/-- The root of a list is its first entry. -/
theorem root?_ofGopath_eq_some_iff :
    (ofGopath (some value)).root? = some root ↔ IsFirstEntry value root := by
  constructor
  · intro hroot
    rcases forall_colon_or_exists_isFirstEntry value with hvalue | ⟨root', h⟩
    · rw [root?_ofGopath_of_forall_colon hvalue] at hroot
      exact nomatch hroot
    · obtain rfl : root' = root := Option.some.inj (h.root?_ofGopath.symm.trans hroot)
      exact h
  · exact IsFirstEntry.root?_ofGopath

/-- A list has no root exactly if it is colons only. -/
theorem root?_ofGopath_eq_none_iff :
    (ofGopath (some value)).root? = none ↔ ∀ c ∈ value, c = ':' := by
  constructor
  · intro hnone
    rcases forall_colon_or_exists_isFirstEntry value with hvalue | ⟨root, h⟩
    · exact hvalue
    · exact nomatch hnone.symm.trans h.root?_ofGopath
  · exact root?_ofGopath_of_forall_colon

/-- Entries that are put together with colons between them are found again. -/
theorem root?_ofGopath_intercalate {entries : List Text}
    (hentries : ∀ entry ∈ entries, ':' ∉ entry) :
    (ofGopath (some ([':'].intercalate entries))).root? = entries.find? (· ≠ []) := by
  by_cases hnil : entries = []
  · subst hnil
    rfl
  · rw [ofGopath, Option.bind_some, Host.entries, List.splitOn_intercalate ':' hentries hnil]

/-! ### The program below a root -/

/-- The program to run is that below the root, whatever the machine is like. -/
theorem executable_of_root? {s : Settings} (hs : s.root? = some root) (hne : root ≠ [])
    (h : Host) :
    s.executable h = (if root.getLast? = some '/' then root else root ++ ['/'])
      ++ "bin/go-find-references".toList := by
  have hbin : Path.join root "bin".toList
      = (if root.getLast? = some '/' then root else root ++ ['/']) ++ "bin".toList :=
    Path.join_of_ne_nil hne rfl
  -- The name of the directory does not end in a slash, so one is added behind it.
  have hlast : (Path.join root "bin".toList).getLast? = some 'n' := by
    rw [hbin, List.getLast?_append]
    rfl
  have hbin_ne : Path.join root "bin".toList ≠ [] := by
    intro hnil
    rw [hnil] at hlast
    exact nomatch hlast
  rw [executable, hs]
  show Path.join (Path.join root "bin".toList) toolName = _
  rw [Path.join_of_ne_nil hbin_ne rfl, hlast, if_neg (by decide), hbin]
  simp only [List.append_assoc]
  rfl

/-- The toolchain root is the first entry of `GOPATH` that is not empty. There is
none exactly if the variable is not set or holds colons only. Neither what stands in
front of the root nor what stands behind it shows in the settings, and the program
below the root is run whatever `PATH` says. A list put together from entries has
the first of them that is not empty as its root. -/
theorem ofGopath_first_entry :
    (∀ value? : Option Text, (ofGopath value?).root? = none
      ↔ value? = none ∨ ∃ value, value? = some value ∧ ∀ c ∈ value, c = ':') ∧
    (∀ value root : Text, (ofGopath (some value)).root? = some root ↔ IsFirstEntry value root) ∧
    (∀ value root : Text, IsFirstEntry value root → ofGopath (some value) = ofRoot root) ∧
    (∀ (s : Settings) (root : Text), s.root? = some root → root ≠ [] → ∀ h : Host,
      s.executable h = (if root.getLast? = some '/' then root else root ++ ['/'])
        ++ "bin/go-find-references".toList) ∧
    ∀ entries : List Text, (∀ entry ∈ entries, ':' ∉ entry) →
      (ofGopath (some ([':'].intercalate entries))).root? = entries.find? (· ≠ []) := by
  refine ⟨?_, ?_, ?_, ?_, ?_⟩
  · intro value?
    cases value? with
    | none => simp [ofGopath]
    | some value => simp [root?_ofGopath_eq_none_iff]
  · exact fun _ _ => root?_ofGopath_eq_some_iff
  · intro value root h
    -- The other settings are the usual ones for both.
    have hroot : (ofGopath (some value)).root? = (ofRoot root).root? := h.root?_ofGopath
    exact congrArg (fun root? : Option Text => ({ root? := root? } : Settings)) hroot
  · exact fun _ _ hs hne h => executable_of_root? hs hne h
  · exact fun _ hentries => root?_ofGopath_intercalate hentries

/-- A list with two empty entries in front, one in the middle and one at the end,
and a root that ends in a slash. -/
def gappedList : Text := "::/opt/go/::/usr/go:".toList

/-- A machine whose `PATH` has the tool, too. -/
def pathHost : Host where
  tree := ⟨[(["bin".toList, toolName], .program [] ⟨[], [], .exited 0⟩)]⟩
  directory := []
  environment := [("PATH".toList, "/bin".toList)]

/-- `ofGopath_first_entry` for that list on that machine. -/
theorem ofGopath_first_entry_gapped :
    IsFirstEntry gappedList "/opt/go/".toList ∧
    ofGopath (some gappedList) = ofRoot "/opt/go/".toList ∧
    pathHost.findProgram? toolName = some "/bin/go-find-references".toList ∧
    (ofGopath (some gappedList)).executable pathHost
      = "/opt/go/bin/go-find-references".toList ∧
    (∀ entry ∈ [[], [], "/opt/go/".toList, [], "/usr/go".toList, []], ':' ∉ entry) ∧
    gappedList = [':'].intercalate [[], [], "/opt/go/".toList, [], "/usr/go".toList, []] ∧
    (ofGopath (some gappedList)).root? = some "/opt/go/".toList := by
  obtain ⟨-, -, hsettings, hexecutable, hentries⟩ := ofGopath_first_entry
  have hfirst : IsFirstEntry gappedList "/opt/go/".toList :=
    ⟨by decide, by decide, "::".toList, "::/usr/go:".toList, by decide, by simp, .inr rfl⟩
  have hlist : ∀ entry ∈ [[], [], "/opt/go/".toList, [], "/usr/go".toList, []], ':' ∉ entry := by
    decide
  have heq : ofGopath (some gappedList) = ofRoot "/opt/go/".toList := hsettings _ _ hfirst
  have hroot : (ofGopath (some gappedList)).root? = some "/opt/go/".toList := by rw [heq]; rfl
  have hpath : pathHost.findProgram? toolName = some "/bin/go-find-references".toList := by
    decide +kernel
  exact ⟨hfirst, heq, hpath, hexecutable _ _ hroot (by decide) pathHost, hlist, by decide,
    hentries _ hlist⟩

end GoXref.Settings
