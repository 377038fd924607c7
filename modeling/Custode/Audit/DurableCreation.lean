import Custode.Found.CrashSafe
import Custode.Found.Disk
import Custode.Ports

/-!
# Creating the audit log durably

The file-system side of `AuditWriter::open`: `create_dir_all_durable`, the creation of the log file
and the sync of its directory. Calls can fail, and one that fails may have taken effect; an attempt
can stop anywhere; and the machine can crash between attempts, which loses unsynced entries.

Of the entries that attempts create, only the deepest one can be unsynced (`OnlyDeepest`): before an
attempt creates an entry, it syncs the one above. That makes it enough for the next attempt to sync
the deepest directory it finds. `durable_creation` is the conclusion.
-/

namespace Custode

open Found Program

/-! ## Paths -/

/-- What a path starts with: `/`, a leading `.`, or a name. -/
inductive PathRoot where
  | absolute
  | dot
  | relative
  deriving DecidableEq

/-- A path without `..` components, its names innermost first (`std::path::Path`). -/
structure FsPath (ν : Type) where
  root : PathRoot
  names : List ν

namespace FsPath

variable {ν : Type}

/-- The empty path. -/
def isEmpty (path : FsPath ν) : Bool := decide (path.root = .relative) && path.names.isEmpty

/-- The path without its last component (`Path::parent`). -/
def parent : FsPath ν → Option (FsPath ν)
  | ⟨root, _ :: rest⟩ => some ⟨root, rest⟩
  | ⟨.dot, []⟩ => some ⟨.relative, []⟩
  | ⟨_, []⟩ => none

/-- The parent path unless it is the empty relative path sentinel.
Source: `audit.rs` `non_empty_parent` -/
def nonEmptyParent (path : FsPath ν) : Option (FsPath ν) :=
  match path.parent with
  | some parent => if parent.isEmpty then none else some parent
  | none => none

/-- A path with a parent that is not empty has a name to lose. -/
lemma names_of_nonEmptyParent {path parent : FsPath ν} (h : path.nonEmptyParent = some parent) :
    ∃ name, path.names = name :: parent.names ∧ parent.root = path.root := by
  obtain ⟨root, _ | ⟨name, rest⟩⟩ := path
  · cases root <;> simp [nonEmptyParent, FsPath.parent, isEmpty] at h
  · simp only [nonEmptyParent, FsPath.parent] at h
    split at h
    · cases h
    · cases h
      exact ⟨name, rfl, rfl⟩

/-- Only the empty path, a single name and a path without names have no such parent. -/
lemma names_of_no_nonEmptyParent {path : FsPath ν} (h : path.nonEmptyParent = none) :
    path.names = [] ∨ ∃ name, path.names = [name] := by
  obtain ⟨root, _ | ⟨name, _ | ⟨next, rest⟩⟩⟩ := path
  · exact .inl rfl
  · exact .inr ⟨name, rfl⟩
  · simp [nonEmptyParent, FsPath.parent, isEmpty] at h

end FsPath

/-! ## The source -/

/-- A file-system call. -/
inductive FsCall (ν : Type) where
  /-- `metadata(path).await` -/
  | metadata (path : FsPath ν)
  /-- `mkdir(path)` -/
  | mkdir (path : FsPath ν)
  /-- `path.is_dir()` -/
  | isDir (path : FsPath ν)
  /-- `OpenOptions::new().append(true).create(true).read(true).open(path).await` -/
  | openAppend (path : FsPath ν)
  /-- `File::open(directory).await?.sync_all().await` -/
  | syncAll (directory : FsPath ν)

/-- The answer of a call. -/
abbrev FsCall.Answer {ν : Type} : FsCall ν → Type
  | metadata _ => Except IoErrorKind EntryKind
  | mkdir _ => Except IoErrorKind Unit
  | isDir _ => Bool
  | openAppend _ => Except IoErrorKind Unit
  | syncAll _ => Except IoErrorKind Unit

/-- A program over the file system. -/
abbrev FsProgram (ν : Type) := Program (FsCall.Answer (ν := ν))

section Source

variable {ν : Type}

/-- Durably commits the directory entry containing a file or child directory.
Source: `audit.rs` `sync_containing_directory` -/
def syncContainingDirectory (path : FsPath ν) : FsProgram ν (Except IoErrorKind Unit) :=
  match path.parent with
  | none => return .ok ()
  | some parent => perform (FsCall.syncAll (if parent.isEmpty then ⟨.dot, []⟩ else parent))

/-- A failed `mkdir` is none when the directory is there. -/
def orIsDir (path : FsPath ν) (error : IoErrorKind) : FsProgram ν (Except IoErrorKind Unit) := do
  if ← perform (FsCall.isDir path) then return .ok () else return .error error

/-- Creates a directory whose parent was created. -/
def mkdirOrIsDir (path : FsPath ν) : FsProgram ν (Except IoErrorKind Unit) := do
  match ← perform (FsCall.mkdir path) with
  | .ok () => return .ok ()
  | .error error => orIsDir path error

/-- Creates a directory and its missing ancestors (`std::fs::create_dir_all`). -/
def createDirAll (root : PathRoot) : List ν → FsProgram ν (Except IoErrorKind Unit)
  | [] => do
      if root = .relative then return .ok ()
      else
        match ← perform (FsCall.mkdir ⟨root, []⟩) with
        | .ok () => return .ok ()
        | .error .notFound => if root = .dot then mkdirOrIsDir ⟨root, []⟩ else return .error .other
        | .error error => orIsDir ⟨root, []⟩ error
  | name :: rest => do
      match ← perform (FsCall.mkdir ⟨root, name :: rest⟩) with
      | .ok () => return .ok ()
      | .error .notFound =>
          match ← createDirAll root rest with
          | .error error => return .error error
          | .ok () => mkdirOrIsDir ⟨root, name :: rest⟩
      | .error error => orIsDir ⟨root, name :: rest⟩ error

/-- The loop that looks for the deepest existing directory. `missing` holds the paths passed on the
way, the last one first, which is the order in which `iter().rev()` visits them.
Source: `audit.rs` `create_dir_all_durable` -/
def existingAncestor (current : FsPath ν) (missing : List (FsPath ν)) :
    FsProgram ν (Except IoErrorKind (Option (FsPath ν) × List (FsPath ν))) := do
  match ← perform (FsCall.metadata current) with
  | .ok .directory => return .ok (some current, missing)
  | .ok .file => return .error .alreadyExists
  | .error .notFound =>
      match _h : current.nonEmptyParent with
      | none => return .ok (none, current :: missing)
      | some parent => existingAncestor parent (current :: missing)
  | .error error => return .error error
termination_by current.names.length
decreasing_by
  obtain ⟨name, hnames, -⟩ := FsPath.names_of_nonEmptyParent _h
  rw [hnames]
  exact Nat.lt_succ_self _

/-- The loop that creates the missing directories.
Source: `audit.rs` `create_dir_all_durable` -/
def createMissing : List (FsPath ν) → FsProgram ν (Except IoErrorKind Unit)
  | [] => return .ok ()
  | directory :: rest => do
      match ← createDirAll directory.root directory.names with
      | .error error => return .error error
      | .ok () =>
          match ← syncContainingDirectory directory with
          | .error error => return .error error
          | .ok () => createMissing rest

/-- Creates every missing directory and durably commits each new directory entry.
Source: `audit.rs` `create_dir_all_durable` -/
def createDirAllDurable (path : FsPath ν) : FsProgram ν (Except IoErrorKind Unit) := do
  if path.isEmpty then return .ok ()
  else
    match ← existingAncestor path [] with
    | .error error => return .error error
    | .ok (none, missing) => createMissing missing
    | .ok (some directory, missing) =>
        match ← syncContainingDirectory directory with
        | .error error => return .error error
        | .ok () => createMissing missing

/-- The failure of an attempt, with the path it is reported for.
Source: `audit.rs` `AuditError::Open` -/
structure OpenError (ν : Type) where
  path : FsPath ν
  source : IoErrorKind

/-- Reports an I/O error for a path (`map_err`). -/
def openErrorAt (path : FsPath ν) (result : Except IoErrorKind Unit) : Except (OpenError ν) Unit :=
  result.mapError fun source => ⟨path, source⟩

/-- The log file, once its directory is there.
Source: `audit.rs` `AuditWriter::open`, `sync_audit_log_directory` -/
def openAuditFile (path : FsPath ν) : FsProgram ν (Except (OpenError ν) Unit) := do
  match openErrorAt path (← perform (FsCall.openAppend path)) with
  | .error error => return .error error
  | .ok () => return openErrorAt path (← syncContainingDirectory path)

/-- An attempt to open an audit writer, through the sync of the log's directory.
Source: `audit.rs` `AuditWriter::open` -/
def openDurably (path : FsPath ν) : FsProgram ν (Except (OpenError ν) Unit) := do
  match path.parent with
  | none => openAuditFile path
  | some parent =>
      match openErrorAt parent (← createDirAllDurable parent) with
      | .error error => return .error error
      | .ok () => openAuditFile path

end Source

/-! ## The file system -/

/-- A disk, and the locations of the entries that attempts created. -/
structure LogDisk (ν : Type) where
  disk : Disk ν
  created : List ν → Prop

section Proof

variable {ν : Type} [DecidableEq ν]

namespace LogDisk

/-- An attempt created an entry. -/
def create (s : LogDisk ν) (name : ν) (dir : List ν) (kind : EntryKind)
    (hdir : s.disk.entry dir = some .directory) (hnew : s.disk.entry (name :: dir) = none) :
    LogDisk ν where
  disk := s.disk.create name dir kind hdir hnew
  created := fun p => p = name :: dir ∨ s.created p

/-- An attempt synced a directory. -/
def sync (s : LogDisk ν) (dir : List ν) : LogDisk ν where
  disk := s.disk.sync dir
  created := s.created

/-- An entry is created at a path where there was none. -/
def Creates (path : FsPath ν) (kind : EntryKind) (s s' : LogDisk ν) : Prop :=
  ∃ name dir hdir hnew, path.names = name :: dir ∧ s' = s.create name dir kind hdir hnew

/-- What a call can answer and do. A call that fails may have taken effect. -/
def Exec (s : LogDisk ν) : Event (FsCall.Answer (ν := ν)) → LogDisk ν → Prop
  | ⟨.metadata path, .ok kind⟩, s' => s.disk.entry path.names = some kind ∧ s' = s
  | ⟨.metadata path, .error .notFound⟩, s' => s.disk.entry path.names = none ∧ s' = s
  | ⟨.metadata _, .error _⟩, s' => s' = s
  | ⟨.mkdir path, .ok _⟩, s' => Creates path .directory s s'
  | ⟨.mkdir path, .error _⟩, s' => s' = s ∨ Creates path .directory s s'
  | ⟨.isDir path, answer⟩, s' =>
      (answer = true → s.disk.entry path.names = some .directory) ∧ s' = s
  | ⟨.openAppend path, .ok _⟩, s' =>
      (s.disk.entry path.names = some .file ∧ s' = s) ∨ Creates path .file s s'
  | ⟨.openAppend path, .error _⟩, s' => s' = s ∨ Creates path .file s s'
  | ⟨.syncAll directory, .ok _⟩, s' => s' = s.sync directory.names
  | ⟨.syncAll directory, .error _⟩, s' => s' = s ∨ s' = s.sync directory.names

/-- The machine crashed. -/
def Crash (s s' : LogDisk ν) : Prop := s.disk.Crash s'.disk ∧ s'.created = s.created

end LogDisk

/-! ## The invariant -/

/-- Created entries are on the path, and one that is unsynced has nothing below it there. -/
structure OnlyDeepest (log : List ν) (s : LogDisk ν) : Prop where
  onPath : ∀ p, s.created p → p <:+ log ∧ p ≠ []
  deepest : ∀ p, s.created p → s.disk.entry p ≠ none → s.disk.synced p = false →
    ∀ name, name :: p <:+ log → s.disk.entry (name :: p) = none

/-- The created entries at a location and above it are synced. -/
def SyncedTo (s : LogDisk ν) (p : List ν) : Prop :=
  ∀ q, q <:+ p → s.created q → s.disk.entry q ≠ none → s.disk.synced q = true

omit [DecidableEq ν] in
/-- A proper suffix is one name short of a suffix. -/
lemma exists_cons_suffix {p q : List ν} (h : q <:+ p) (hne : q ≠ p) : ∃ name, name :: q <:+ p := by
  obtain ⟨front, rfl⟩ := h
  rcases List.eq_nil_or_concat front with rfl | ⟨front, name, rfl⟩
  · exact absurd rfl hne
  · exact ⟨name, front, by simp⟩

namespace OnlyDeepest

variable {log : List ν} {s s' : LogDisk ν}

omit [DecidableEq ν] in
/-- A crash leaves the deepest entries of what it leaves. -/
lemma crash (h : OnlyDeepest log s) (hcrash : LogDisk.Crash s s') : OnlyDeepest log s' := by
  obtain ⟨hdisk, hcreated⟩ := hcrash
  have hthere : ∀ p, s'.disk.entry p ≠ none → s.disk.entry p ≠ none := by
    intro p hp
    obtain ⟨kind, hkind⟩ := Option.ne_none_iff_exists'.mp hp
    rw [hdisk.kept p kind hkind]
    exact Option.some_ne_none kind
  constructor
  · intro p hp
    rw [hcreated] at hp
    exact h.onPath p hp
  · intro p hp hentry hsynced name hname
    rw [hcreated] at hp
    have hbefore : s.disk.synced p = false := by
      by_contra hne
      rw [hdisk.synced p hentry (Bool.not_eq_false _ ▸ hne)] at hsynced
      cases hsynced
    by_contra hbelow
    exact hthere _ hbelow (h.deepest p hp (hthere p hentry) hbefore name hname)

/-- A sync leaves only the deepest entry unsynced. -/
lemma sync (h : OnlyDeepest log s) (dir : List ν) : OnlyDeepest log (s.sync dir) := by
  constructor
  · exact h.onPath
  · intro p hp hentry hsynced name hname
    refine h.deepest p hp hentry ?_ name hname
    by_contra hne
    rw [LogDisk.sync, s.disk.synced_sync_of_synced (Bool.not_eq_false _ ▸ hne)] at hsynced
    cases hsynced

/-- Syncing the directory of the deepest entry syncs every created entry down to it. -/
lemma syncedTo_sync (h : OnlyDeepest log s) {name : ν} {dir : List ν} (hlog : name :: dir <:+ log)
    (hentry : s.disk.entry (name :: dir) ≠ none) : SyncedTo (s.sync dir) (name :: dir) := by
  intro q hq hcreated hthere
  by_cases hself : q = name :: dir
  · subst hself
    exact s.disk.synced_sync hentry
  · apply s.disk.synced_sync_of_synced
    by_contra hunsynced
    obtain ⟨next, hnext⟩ := exists_cons_suffix hq hself
    have hnone := h.deepest q hcreated hthere (Bool.not_eq_true _ ▸ hunsynced) next
      (hnext.trans hlog)
    exact hentry (s.disk.below hnone hnext)

/-- A new entry below synced ones is the deepest. -/
lemma create (h : OnlyDeepest log s) {name : ν} {dir : List ν} {kind : EntryKind}
    (hlog : name :: dir <:+ log) (hsynced : SyncedTo s dir)
    (hdir : s.disk.entry dir = some .directory) (hnew : s.disk.entry (name :: dir) = none) :
    OnlyDeepest log (s.create name dir kind hdir hnew) := by
  constructor
  · rintro p (rfl | hp)
    · exact ⟨hlog, List.cons_ne_nil _ _⟩
    · exact h.onPath p hp
  · intro p hp hentry hunsynced next hnext
    by_cases hself : p = name :: dir
    · subst hself
      have hne : next :: name :: dir ≠ name :: dir := fun heq => by
        simpa using congrArg List.length heq
      change Function.update s.disk.entry (name :: dir) (some kind) _ = none
      rw [Function.update_of_ne hne]
      exact s.disk.below hnew (List.suffix_cons _ _)
    · have hcreated : s.created p := hp.resolve_left hself
      change Function.update s.disk.entry (name :: dir) (some kind) p ≠ none at hentry
      change Function.update s.disk.synced (name :: dir) false p = false at hunsynced
      rw [Function.update_of_ne hself] at hentry hunsynced
      -- above the new entry everything is synced, and below it nothing is there
      rcases List.suffix_or_suffix_of_suffix (h.onPath p hcreated).1 hlog with hsuffix | hsuffix
      · rw [List.suffix_cons_iff] at hsuffix
        have habove := hsynced p (hsuffix.resolve_left hself) hcreated hentry
        rw [hunsynced] at habove
        cases habove
      · exact absurd (s.disk.below hnew hsuffix) hentry

end OnlyDeepest

/-! ## What an attempt guarantees -/

/-- The directory is there, and the created entries down to it are synced. -/
structure SyncedDirectory (log dir : List ν) (s : LogDisk ν) : Prop where
  deepest : OnlyDeepest log s
  synced : SyncedTo s dir
  there : s.disk.entry dir = some .directory

variable {log : List ν}

omit [DecidableEq ν] in
/-- The base directory is no entry. -/
lemma SyncedDirectory.base {s : LogDisk ν} (h : OnlyDeepest log s) : SyncedDirectory log [] s := by
  refine ⟨h, ?_, s.disk.base⟩
  intro q hq hcreated _
  rw [List.suffix_nil] at hq
  exact absurd hq (h.onPath q hcreated).2

/-- Creating the next entry, whether it is reported or not. -/
lemma SyncedDirectory.creates {s s' : LogDisk ν} {name : ν} {dir : List ν} {root : PathRoot}
    {kind : EntryKind} (h : SyncedDirectory log dir s) (hlog : name :: dir <:+ log)
    (hcreates : LogDisk.Creates ⟨root, name :: dir⟩ kind s s') :
    SyncedDirectory log dir s' ∧ s'.disk.entry (name :: dir) = some kind := by
  obtain ⟨name', dir', hdir, hnew, hnames, rfl⟩ := hcreates
  obtain ⟨rfl, rfl⟩ := List.cons.inj hnames
  have hne : ∀ q, q <:+ dir → q ≠ name :: dir := by
    rintro q hq rfl
    have hlength := hq.length_le
    simp only [List.length_cons] at hlength
    omega
  refine ⟨⟨h.deepest.create hlog h.synced hdir hnew, ?_, ?_⟩, ?_⟩
  · intro q hq hcreated hentry
    change Function.update s.disk.entry (name :: dir) (some kind) q ≠ none at hentry
    change Function.update s.disk.synced (name :: dir) false q = true
    rw [Function.update_of_ne (hne q hq)] at hentry ⊢
    exact h.synced q hq (hcreated.resolve_left (hne q hq)) hentry
  · change Function.update s.disk.entry (name :: dir) (some kind) dir = some .directory
    rw [Function.update_of_ne (hne dir List.suffix_rfl)]
    exact hdir
  · change Function.update s.disk.entry (name :: dir) (some kind) (name :: dir) = some kind
    exact Function.update_self _ _ _

/-- No entry is created where one is. -/
lemma not_creates_of_entry {s s' : LogDisk ν} {path : FsPath ν} {kind : EntryKind}
    (h : s.disk.entry path.names ≠ none) : ¬ LogDisk.Creates path kind s s' := by
  rintro ⟨name, dir, hdir, hnew, hnames, -⟩
  rw [hnames] at h
  exact h hnew

/-- What an attempt has to keep at every call. -/
abbrev Attempt {α : Type} (log : List ν) (p : FsProgram ν α) (Q : α → LogDisk ν → Prop)
    (s : LogDisk ν) : Prop :=
  Wp LogDisk.Exec (OnlyDeepest log) p Q s

/-- A path that exists as a directory is no error. -/
lemma attempt_orIsDir {s : LogDisk ν} (h : OnlyDeepest log s) (path : FsPath ν)
    (error : IoErrorKind) :
    Attempt log (orIsDir path error) (fun result s' => s' = s ∧
      (result = .ok () → s.disk.entry path.names = some .directory)) s := by
  unfold orIsDir
  rw [Attempt, wp_bind, wp_perform]
  refine ⟨h, ?_⟩
  rintro answer s' ⟨hdir, rfl⟩
  refine ⟨h, ?_⟩
  cases answer with
  | true => exact ⟨h, rfl, fun _ => hdir rfl⟩
  | false => exact ⟨h, rfl, fun hresult => by cases hresult⟩

/-- A directory below a synced one is made, or is there already. -/
lemma attempt_mkdirOrIsDir {s : LogDisk ν} {root : PathRoot} {name : ν} {dir : List ν}
    (h : SyncedDirectory log dir s) (hlog : name :: dir <:+ log) :
    Attempt log (mkdirOrIsDir ⟨root, name :: dir⟩) (fun result s' => SyncedDirectory log dir s' ∧
      (result = .ok () → s'.disk.entry (name :: dir) = some .directory)) s := by
  unfold mkdirOrIsDir
  rw [Attempt, wp_bind, wp_perform]
  refine ⟨h.deepest, ?_⟩
  intro answer s' hexec
  cases answer with
  | ok _ =>
      obtain ⟨h', hentry⟩ := h.creates hlog hexec
      exact ⟨h'.deepest, h'.deepest, h', fun _ => hentry⟩
  | error error =>
      have h' : SyncedDirectory log dir s' := by
        rcases hexec with rfl | hcreates
        · exact h
        · exact (h.creates hlog hcreates).1
      refine ⟨h'.deepest, (attempt_orIsDir h'.deepest _ error).mono ?_⟩
      rintro result s'' - ⟨rfl, hdir⟩
      exact ⟨h', hdir⟩

/-- `mkdir` of a directory that is there changes nothing. -/
lemma mkdir_of_entry {s s' : LogDisk ν} {root : PathRoot} {dir : List ν}
    {answer : Except IoErrorKind Unit} (hdir : s.disk.entry dir = some .directory)
    (hexec : LogDisk.Exec s ⟨.mkdir ⟨root, dir⟩, answer⟩ s') : s' = s := by
  have hsome : s.disk.entry dir ≠ none := by
    rw [hdir]
    exact Option.some_ne_none _
  cases answer with
  | ok _ => exact absurd hexec (not_creates_of_entry hsome)
  | error _ => exact hexec.resolve_right (not_creates_of_entry hsome)

/-- The check for a directory changes nothing. -/
lemma attempt_orIsDir_same {s : LogDisk ν} (h : OnlyDeepest log s) (path : FsPath ν)
    (error : IoErrorKind) : Attempt log (orIsDir path error) (fun _ s' => s' = s) s :=
  (attempt_orIsDir h path error).mono fun _ _ _ hpost => hpost.1

/-- Making a directory that is there changes nothing. -/
lemma attempt_mkdirOrIsDir_of_entry {s : LogDisk ν} (h : OnlyDeepest log s) (root : PathRoot)
    {dir : List ν} (hdir : s.disk.entry dir = some .directory) :
    Attempt log (mkdirOrIsDir ⟨root, dir⟩) (fun _ s' => s' = s) s := by
  unfold mkdirOrIsDir
  rw [Attempt, wp_bind, wp_perform]
  refine ⟨h, ?_⟩
  intro answer s' hexec
  obtain rfl := mkdir_of_entry hdir hexec
  cases answer with
  | ok _ => exact ⟨h, h, rfl⟩
  | error error => exact ⟨h, attempt_orIsDir_same h _ error⟩

/-- `create_dir_all` of a directory that is there changes nothing. -/
lemma attempt_createDirAll_of_entry {s : LogDisk ν} (h : OnlyDeepest log s) (root : PathRoot)
    {dir : List ν} (hdir : s.disk.entry dir = some .directory) :
    Attempt log (createDirAll root dir) (fun _ s' => s' = s) s := by
  induction dir with
  | nil =>
      unfold createDirAll
      by_cases hroot : root = .relative
      · rw [if_pos hroot]
        exact ⟨h, rfl⟩
      · rw [if_neg hroot, Attempt, wp_bind, wp_perform]
        refine ⟨h, ?_⟩
        intro answer s' hexec
        obtain rfl := mkdir_of_entry hdir hexec
        refine ⟨h, ?_⟩
        rcases answer with (_ | _ | _) | _
        · exact attempt_orIsDir_same h _ _
        · by_cases hdot : root = .dot
          · simp only [if_pos hdot]
            exact attempt_mkdirOrIsDir_of_entry h root hdir
          · simp only [if_neg hdot]
            exact ⟨h, rfl⟩
        · exact attempt_orIsDir_same h _ _
        · exact ⟨h, rfl⟩
  | cons name rest ih =>
      have hrest := s.disk.parent name rest (by rw [hdir]; exact Option.some_ne_none _)
      unfold createDirAll
      rw [Attempt, wp_bind, wp_perform]
      refine ⟨h, ?_⟩
      intro answer s' hexec
      obtain rfl := mkdir_of_entry hdir hexec
      refine ⟨h, ?_⟩
      rcases answer with (_ | _ | _) | _
      · exact attempt_orIsDir_same h _ _
      · rw [wp_bind]
        apply (ih hrest).mono
        rintro result s'' - rfl
        cases result with
        | error error => exact ⟨h, rfl⟩
        | ok _ => exact attempt_mkdirOrIsDir_of_entry h root hdir
      · exact attempt_orIsDir_same h _ _
      · exact ⟨h, rfl⟩

/-- `create_dir_all` below a synced directory creates at most the next one. -/
lemma attempt_createDirAll {s : LogDisk ν} {root : PathRoot} {name : ν} {dir : List ν}
    (h : SyncedDirectory log dir s) (hlog : name :: dir <:+ log) :
    Attempt log (createDirAll root (name :: dir)) (fun result s' => SyncedDirectory log dir s' ∧
      (result = .ok () → s'.disk.entry (name :: dir) = some .directory)) s := by
  have horIsDir : ∀ {s'} error, SyncedDirectory log dir s' →
      Attempt log (orIsDir ⟨root, name :: dir⟩ error) (fun result s'' =>
        SyncedDirectory log dir s'' ∧
        (result = .ok () → s''.disk.entry (name :: dir) = some .directory)) s' := by
    intro s' error h'
    apply (attempt_orIsDir h'.deepest _ error).mono
    rintro result s'' - ⟨rfl, hdir⟩
    exact ⟨h', hdir⟩
  unfold createDirAll
  rw [Attempt, wp_bind, wp_perform]
  refine ⟨h.deepest, ?_⟩
  intro answer s' hexec
  rcases answer with error | _
  · have h' : SyncedDirectory log dir s' := by
      rcases hexec with rfl | hcreates
      · exact h
      · exact (h.creates hlog hcreates).1
    refine ⟨h'.deepest, ?_⟩
    cases error with
    | notFound =>
        rw [wp_bind]
        apply (attempt_createDirAll_of_entry h'.deepest root h'.there).mono
        rintro result s'' - rfl
        cases result with
        | error error => exact ⟨h'.deepest, h', fun hresult => by cases hresult⟩
        | ok _ => exact attempt_mkdirOrIsDir h' hlog
    | alreadyExists => exact horIsDir _ h'
    | other => exact horIsDir _ h'
  · obtain ⟨h', hentry⟩ := h.creates hlog hexec
    exact ⟨h'.deepest, h'.deepest, h', fun _ => hentry⟩

/-- Syncing the directory of an entry makes the entry a synced directory, if it is one. -/
lemma attempt_syncContainingDirectory {s : LogDisk ν} (h : OnlyDeepest log s) {path : FsPath ν}
    (hlog : path.names <:+ log) (hentry : s.disk.entry path.names ≠ none) :
    Attempt log (syncContainingDirectory path) (fun result s' => OnlyDeepest log s' ∧
      s'.disk.entry = s.disk.entry ∧
      (result = .ok () → SyncedTo s' path.names ∧
        (path.names ≠ [] → s'.disk.synced path.names = true))) s := by
  obtain ⟨root, _ | ⟨name, dir⟩⟩ := path
  · -- there is no entry to sync: the base directory
    have hbase : ∀ {s'}, OnlyDeepest log s' → SyncedTo s' [] := by
      intro s' h' q hq hcreated _
      rw [List.suffix_nil] at hq
      exact absurd hq (h'.onPath q hcreated).2
    unfold syncContainingDirectory
    cases root with
    | dot =>
        refine ⟨h, ?_⟩
        intro answer s' hexec
        have hsame : OnlyDeepest log s' ∧ s'.disk.entry = s.disk.entry := by
          cases answer with
          | ok _ =>
              obtain rfl := hexec
              exact ⟨h.sync _, rfl⟩
          | error _ =>
              rcases hexec with rfl | rfl
              · exact ⟨h, rfl⟩
              · exact ⟨h.sync _, rfl⟩
        exact ⟨hsame.1, hsame.1, hsame.2, fun _ => ⟨hbase hsame.1, fun hne => absurd rfl hne⟩⟩
    | absolute => exact ⟨h, h, rfl, fun _ => ⟨hbase h, fun hne => absurd rfl hne⟩⟩
    | relative => exact ⟨h, h, rfl, fun _ => ⟨hbase h, fun hne => absurd rfl hne⟩⟩
  · have hdirectory : (if FsPath.isEmpty ⟨root, dir⟩ then (⟨.dot, []⟩ : FsPath ν)
        else ⟨root, dir⟩).names = dir := by
      split
      · rename_i hempty
        simp only [FsPath.isEmpty, Bool.and_eq_true, List.isEmpty_iff] at hempty
        exact hempty.2.symm
      · rfl
    unfold syncContainingDirectory
    refine ⟨h, ?_⟩
    intro answer s' hexec
    cases answer with
    | ok _ =>
        obtain rfl := hexec
        simp only [hdirectory]
        exact ⟨h.sync dir, h.sync dir, rfl, fun _ => ⟨h.syncedTo_sync hlog hentry,
          fun _ => s.disk.synced_sync hentry⟩⟩
    | error _ =>
        have hsame : OnlyDeepest log s' ∧ s'.disk.entry = s.disk.entry := by
          rcases hexec with rfl | rfl
          · exact ⟨h, rfl⟩
          · exact ⟨h.sync _, rfl⟩
        exact ⟨hsame.1, hsame.1, hsame.2, fun hresult => by cases hresult⟩

/-- The paths lead from a location down to another, one name at a time. -/
def Descends (top : List ν) : List (FsPath ν) → List ν → Prop
  | [], bottom => top = bottom
  | path :: rest, bottom => (∃ name, path.names = name :: top) ∧ Descends path.names rest bottom

omit [DecidableEq ν] in
/-- The paths from one directory down to another are below it. -/
lemma Descends.suffix {top bottom : List ν} {paths : List (FsPath ν)}
    (h : Descends top paths bottom) : top <:+ bottom := by
  induction paths generalizing top with
  | nil =>
      obtain rfl := h
      exact List.suffix_rfl
  | cons path rest ih =>
      obtain ⟨⟨name, hname⟩, hrest⟩ := h
      have hsuffix := ih hrest
      rw [hname] at hsuffix
      exact (List.suffix_cons name top).trans hsuffix

/-- Where the loop over the ancestors stops: below an existing directory, or at the base directory.
-/
def LeadsFrom (s : LogDisk ν) (bottom : List ν) : Option (FsPath ν) → List (FsPath ν) → Prop
  | some directory, missing => s.disk.entry directory.names = some .directory ∧
      Descends directory.names missing bottom
  | none, missing => Descends [] missing bottom

/-- The loop finds where to start, and the paths from there down. -/
lemma attempt_existingAncestor {s : LogDisk ν} (h : OnlyDeepest log s) {bottom : List ν}
    (current : FsPath ν) (missing : List (FsPath ν))
    (hdown : Descends current.names missing bottom) :
    Attempt log (existingAncestor current missing) (fun result s' => s' = s ∧
      ∀ existing missing', result = .ok (existing, missing') → LeadsFrom s bottom existing missing')
      s := by
  induction current, missing using existingAncestor.induct with
  | case1 current missing ih =>
      rw [existingAncestor, Attempt, wp_bind, wp_perform]
      refine ⟨h, ?_⟩
      intro answer s' hexec
      rcases answer with (_ | _ | _) | (_ | _)
      · obtain rfl := hexec
        exact ⟨h, h, rfl, fun _ _ hresult => by cases hresult⟩
      · obtain ⟨hnone, rfl⟩ := hexec
        refine ⟨h, ?_⟩
        dsimp only
        split
        · rename_i hparent
          refine ⟨h, rfl, ?_⟩
          rintro existing missing' hresult
          cases hresult
          rcases FsPath.names_of_no_nonEmptyParent hparent with hnames | ⟨name, hnames⟩
          · -- the base directory is not missing
            rw [hnames, s'.disk.base] at hnone
            cases hnone
          · exact ⟨⟨name, hnames⟩, hdown⟩
        · rename_i parent hparent
          obtain ⟨name, hnames, -⟩ := FsPath.names_of_nonEmptyParent hparent
          exact ih parent hparent ⟨⟨name, hnames⟩, hdown⟩
      · obtain rfl := hexec
        exact ⟨h, h, rfl, fun _ _ hresult => by cases hresult⟩
      · obtain ⟨hdirectory, rfl⟩ := hexec
        refine ⟨h, h, rfl, ?_⟩
        rintro existing missing' hresult
        cases hresult
        exact ⟨hdirectory, hdown⟩
      · obtain ⟨-, rfl⟩ := hexec
        exact ⟨h, h, rfl, fun _ _ hresult => by cases hresult⟩

/-- The loop over the missing directories moves the synced directory down to the last of them. -/
lemma attempt_createMissing {s : LogDisk ν} {top bottom : List ν} {missing : List (FsPath ν)}
    (h : SyncedDirectory log top s) (hdown : Descends top missing bottom) (hlog : bottom <:+ log) :
    Attempt log (createMissing missing) (fun result s' => OnlyDeepest log s' ∧
      (result = .ok () → SyncedDirectory log bottom s')) s := by
  induction missing generalizing s top with
  | nil =>
      obtain rfl := hdown
      exact ⟨h.deepest, h.deepest, fun _ => h⟩
  | cons directory rest ih =>
      obtain ⟨⟨name, hname⟩, hrest⟩ := hdown
      have hsuffix : name :: top <:+ log := hname ▸ hrest.suffix.trans hlog
      unfold createMissing
      rw [Attempt, wp_bind, hname]
      apply (attempt_createDirAll h hsuffix).mono
      rintro result s' - ⟨h', hentry⟩
      cases result with
      | error error => exact ⟨h'.deepest, h'.deepest, fun hresult => by cases hresult⟩
      | ok _ =>
          have hthere := hentry rfl
          rw [wp_bind]
          refine (attempt_syncContainingDirectory h'.deepest (hname ▸ hsuffix) ?_).mono ?_
          · rw [hname, hthere]
            exact Option.some_ne_none _
          · rintro result s'' - ⟨h'', hsame, hsynced⟩
            cases result with
            | error error => exact ⟨h'', h'', fun hresult => by cases hresult⟩
            | ok _ =>
                refine ih ⟨h'', (hsynced rfl).1, ?_⟩ hrest
                rw [hsame, hname]
                exact hthere

/-- After `create_dir_all_durable` the directory is there, and what attempts created of it is
synced. -/
lemma attempt_createDirAllDurable {s : LogDisk ν} (h : OnlyDeepest log s) (path : FsPath ν)
    (hlog : path.names <:+ log) :
    Attempt log (createDirAllDurable path) (fun result s' => OnlyDeepest log s' ∧
      (result = .ok () → SyncedDirectory log path.names s')) s := by
  unfold createDirAllDurable
  split
  · rename_i hempty
    simp only [FsPath.isEmpty, Bool.and_eq_true, List.isEmpty_iff] at hempty
    refine ⟨h, h, fun _ => ?_⟩
    rw [hempty.2]
    exact .base h
  · rw [Attempt, wp_bind]
    apply (attempt_existingAncestor h path [] rfl).mono
    rintro result s' - ⟨rfl, hresult⟩
    rcases result with error | ⟨_ | directory, missing⟩
    · exact ⟨h, h, fun hresult => by cases hresult⟩
    · exact attempt_createMissing (.base h) (hresult none missing rfl) hlog
    · obtain ⟨hdirectory, hdown⟩ := hresult (some directory) missing rfl
      rw [wp_bind]
      refine (attempt_syncContainingDirectory h (hdown.suffix.trans hlog) ?_).mono ?_
      · rw [hdirectory]
        exact Option.some_ne_none _
      · rintro result s'' - ⟨h'', hsame, hsynced⟩
        cases result with
        | error error => exact ⟨h'', h'', fun hresult => by cases hresult⟩
        | ok _ =>
            refine attempt_createMissing ⟨h'', (hsynced rfl).1, ?_⟩ hdown hlog
            rw [hsame]
            exact hdirectory

/-- What a successful attempt leaves: the log is there and synced, and so is what attempts created
above it. -/
def Opened (log : List ν) (s : LogDisk ν) : Prop := s.disk.Durable log ∧ SyncedTo s log

/-- The file is opened below a synced directory. -/
lemma attempt_openAuditFile {s : LogDisk ν} {root : PathRoot} {name : ν} {dir : List ν}
    (h : SyncedDirectory (name :: dir) dir s) :
    Attempt (name :: dir) (openAuditFile ⟨root, name :: dir⟩) (fun result s' =>
      result = .ok () → Opened (name :: dir) s') s := by
  unfold openAuditFile
  rw [Attempt, wp_bind, wp_perform]
  refine ⟨h.deepest, ?_⟩
  intro answer s' hexec
  have h' : OnlyDeepest (name :: dir) s' := by
    rcases answer with _ | _
    · rcases hexec with rfl | hcreates
      · exact h.deepest
      · exact (h.creates List.suffix_rfl hcreates).1.deepest
    · rcases hexec with ⟨-, rfl⟩ | hcreates
      · exact h.deepest
      · exact (h.creates List.suffix_rfl hcreates).1.deepest
  refine ⟨h', ?_⟩
  rcases answer with error | _
  · exact ⟨h', fun hresult => by cases hresult⟩
  · have hentry : s'.disk.entry (name :: dir) ≠ none := by
      rcases hexec with ⟨hfile, rfl⟩ | hcreates
      · rw [hfile]
        exact Option.some_ne_none _
      · rw [(h.creates List.suffix_rfl hcreates).2]
        exact Option.some_ne_none _
    simp only [openErrorAt, Except.mapError]
    rw [wp_bind]
    apply (attempt_syncContainingDirectory h' List.suffix_rfl hentry).mono
    rintro result s'' h'' ⟨-, hsame, hsynced⟩
    refine ⟨h'', ?_⟩
    intro hresult
    rcases result with error | _
    · cases hresult
    · obtain ⟨habove, hself⟩ := hsynced rfl
      refine ⟨⟨?_, hself (List.cons_ne_nil _ _)⟩, habove⟩
      rw [hsame]
      exact hentry

/-- There is no log file at the base directory. -/
lemma attempt_openAuditFile_base {s : LogDisk ν} {path : FsPath ν} (h : OnlyDeepest log s)
    (hnames : path.names = []) :
    Attempt log (openAuditFile path) (fun result _ => result ≠ .ok ()) s := by
  have hbase : s.disk.entry path.names = some .directory := by
    rw [hnames]
    exact s.disk.base
  have hthere : s.disk.entry path.names ≠ none := by
    rw [hbase]
    exact Option.some_ne_none _
  unfold openAuditFile
  rw [Attempt, wp_bind, wp_perform]
  refine ⟨h, ?_⟩
  intro answer s' hexec
  rcases answer with error | _
  · obtain rfl := hexec.resolve_right (not_creates_of_entry hthere)
    exact ⟨h, h, fun hresult => by cases hresult⟩
  · rcases hexec with ⟨hfile, -⟩ | hcreates
    · rw [hbase] at hfile
      cases hfile
    · exact absurd hcreates (not_creates_of_entry hthere)

/-- An attempt keeps the invariant, and what it leaves when it succeeds. -/
theorem attempt_openDurably {s : LogDisk ν} (path : FsPath ν) (h : OnlyDeepest path.names s) :
    Attempt path.names (openDurably path) (fun result s' => result = .ok () →
      Opened path.names s') s := by
  have hnone : ∀ {s'}, OnlyDeepest path.names s' → path.names = [] →
      Attempt path.names (openAuditFile path) (fun result s'' => result = .ok () →
        Opened path.names s'') s' := by
    intro s' h' hnames
    apply (attempt_openAuditFile_base h' hnames).mono
    exact fun result s'' _ hne hok => absurd hok hne
  unfold openDurably
  split
  · rename_i hparent
    apply hnone h
    obtain ⟨root, _ | ⟨name, dir⟩⟩ := path
    · rfl
    · cases hparent
  · rename_i parent hparent
    rw [Attempt, wp_bind]
    have hlog : parent.names <:+ path.names := by
      obtain ⟨_ | _ | _, _ | ⟨name, dir⟩⟩ := path <;> cases hparent
      all_goals first | exact List.suffix_rfl | exact List.suffix_cons _ _
    apply (attempt_createDirAllDurable h parent hlog).mono
    rintro result s' - ⟨h', hsynced⟩
    rcases result with error | _
    · exact ⟨h', fun hresult => by cases hresult⟩
    · obtain ⟨root, _ | ⟨name, dir⟩⟩ := path
      · exact hnone h' rfl
      · cases hparent
        exact attempt_openAuditFile (hsynced rfl)

omit [DecidableEq ν] in
/-- The loop over the ancestors looks at no more paths than the path has names, and one. -/
lemma bounded_existingAncestor (current : FsPath ν) (missing : List (FsPath ν)) :
    (existingAncestor current missing).Bounded (current.names.length + 1) := by
  induction current, missing using existingAncestor.induct with
  | case1 current missing ih =>
      rw [existingAncestor]
      apply bounded_perform
      rintro ((_ | _ | _) | (_ | _))
      · trivial
      · dsimp only
        split
        · trivial
        · rename_i parent hparent
          obtain ⟨name, hnames, -⟩ := FsPath.names_of_nonEmptyParent hparent
          have hbounded := ih parent hparent
          rw [hnames]
          exact hbounded
      · trivial
      · trivial
      · trivial

/-- Attempts to open the audit log are made one after another from any file system; each may fail or
stop at any call, and crashes in between lose unsynced entries. When one gets past the sync of the
log's directory, the log file is durable, and so is every entry that any of the attempts created.
The loop over the ancestors ends within one call for each name of its path, and one more. -/
theorem durable_creation {ν : Type} [DecidableEq ν] (path : FsPath ν) (disk : Disk ν) :
    (∀ before after,
      Attempts LogDisk.Exec LogDisk.Crash (openDurably path) ⟨disk, fun _ => False⟩ before →
      Steps LogDisk.Exec (openDurably path) before (.ret (.ok ())) after →
      after.disk.Durable path.names ∧ ∀ p, after.created p → after.disk.Durable p) ∧
    ∀ current missing, (existingAncestor (ν := ν) current missing).Bounded
      (current.names.length + 1) := by
  refine ⟨?_, bounded_existingAncestor⟩
  intro before after hattempts hsteps
  have hbefore : OnlyDeepest path.names before := by
    refine Attempts.invariant (C := OnlyDeepest path.names) ?_ ?_ ?_ hattempts
    · exact fun s h => (attempt_openDurably path h).mono fun _ _ _ _ => trivial
    · exact fun s t h hcrash => h.crash hcrash
    · exact ⟨fun p hp => hp.elim, fun p hp => hp.elim⟩
  obtain ⟨hafter, hopened⟩ := (attempt_openDurably path hbefore).steps hsteps
  obtain ⟨hdurable, hsynced⟩ := hopened rfl
  refine ⟨hdurable, ?_⟩
  intro p hp
  obtain ⟨hsuffix, -⟩ := hafter.onPath p hp
  have hentry : after.disk.entry p ≠ none := fun hnone =>
    hdurable.1 (after.disk.below hnone hsuffix)
  exact ⟨hentry, hsynced p hsuffix hp hentry⟩

/-- A file system with nothing in the base directory. -/
def bareDisk : Disk String where
  entry p := if p = [] then some .directory else none
  synced _ := false
  base := if_pos rfl
  parent name dir h := absurd (if_neg (List.cons_ne_nil name dir)) h

/-- `durable_creation` for the log `a/log`, where a first attempt stops once it created `a`. -/
theorem durable_creation_after_stop : ∃ before after : LogDisk String,
    (before.created ["a"] ∧ ¬ before.disk.Durable ["a"]) ∧
    after.disk.Durable ["log", "a"] ∧ after.disk.Durable ["a"] := by
  let start : LogDisk String := ⟨bareDisk, fun _ => False⟩
  let stopped : LogDisk String := start.create "a" [] .directory rfl (by decide)
  let found : LogDisk String := stopped.sync []
  let opened : LogDisk String := found.create "log" ["a"] .file (by decide) (by decide)
  have hmissing : LogDisk.Exec start ⟨.metadata ⟨.relative, ["a"]⟩, .error .notFound⟩ start :=
    ⟨rfl, rfl⟩
  have hmkdir : LogDisk.Exec start ⟨.mkdir ⟨.relative, ["a"]⟩, .ok ()⟩ stopped :=
    ⟨"a", [], rfl, by decide, rfl, rfl⟩
  have hfound : LogDisk.Exec stopped ⟨.metadata ⟨.relative, ["a"]⟩, .ok .directory⟩ stopped :=
    ⟨rfl, rfl⟩
  have hsync : LogDisk.Exec stopped ⟨.syncAll ⟨.dot, []⟩, .ok ()⟩ found := rfl
  have hopen : LogDisk.Exec found ⟨.openAppend ⟨.relative, ["log", "a"]⟩, .ok ()⟩ opened :=
    .inr ⟨"log", ["a"], by decide, by decide, rfl, rfl⟩
  have hlast : LogDisk.Exec opened ⟨.syncAll ⟨.relative, ["a"]⟩, .ok ()⟩ (opened.sync ["a"]) := rfl
  have hopened : Steps LogDisk.Exec (openDurably ⟨.relative, ["log", "a"]⟩) stopped
      (.ret (.ok ())) (opened.sync ["a"]) := by
    dsimp only [openDurably, createDirAllDurable, FsPath.parent]
    rw [if_neg (by decide), existingAncestor]
    exact .step hfound (.step hsync (.step hopen (.step hlast (.refl _ _))))
  have hstopped : Attempts LogDisk.Exec LogDisk.Crash (openDurably ⟨.relative, ["log", "a"]⟩) start
      stopped := by
    dsimp only [openDurably, createDirAllDurable, FsPath.parent]
    rw [if_neg (by decide), existingAncestor]
    exact .attempt .start (.step hmissing (.step hmkdir (.refl _ _)))
  obtain ⟨hdurable, hcreated⟩ := (durable_creation ⟨.relative, ["log", "a"]⟩ bareDisk).1 _ _
    hstopped hopened
  refine ⟨stopped, opened.sync ["a"], ⟨.inl rfl, ?_⟩, hdurable, hcreated ["a"] (.inr (.inl rfl))⟩
  rintro ⟨-, hsynced⟩
  cases hsynced

end Proof

end Custode
