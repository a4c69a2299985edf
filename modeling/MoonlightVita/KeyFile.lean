import MoonlightVita.Files

/-!
# The private key: `load_or_create_private_key`

The probe reads `wg-private.key`, or writes a new key to a temporary file and renames
it. The outcomes of the calls are arguments; a file that does not exist cannot be
opened or found.
-/
namespace MoonlightVita.KeyFile
open Files

inductive Path
  | privateKey
  | temporary (processTime : UInt64)
  | other (name : String)
  deriving DecidableEq, Repr

abbrev Key : Type := Vector UInt8 32

def storedSize : ℕ := 33

inductive Write
  | wrote (n : ℕ)
  | failed (code : ErrorCode) (written : ℕ)

/-- The outcome of each call, should it be made: whether it finds the key file, or the error with
which it fails. -/
structure Outcomes where
  opens : Bool
  openCode : ErrorCode
  read : Except ErrorCode ℕ
  stats : Bool
  random : Except ErrorCode Key
  processTime : UInt64
  openTemporary : Option ErrorCode
  write : Write
  sync : Option ErrorCode
  rename : Option ErrorCode
  remove : Option ErrorCode

def clamp (key : Key) : Key := (key.set 0 (key[0] &&& 248)).set 31 (key[31] &&& 127 ||| 64)

/-- The result and the files afterwards. A write that is not complete counts as failed. -/
def writeExactFile (fs : FileSystem Path) (path : Path) (data : List UInt8) (o : Outcomes) :
    ℤ × FileSystem Path :=
  match o.openTemporary with
  | some code => (code, fs)
  | none =>
    let fs := put fs path []
    match o.write with
    | .failed code written => (code, put fs path (data.take written))
    | .wrote n =>
      let fs := put fs path (data.take n)
      if (data.take n).length = data.length then
        match o.sync with
        | some code => (code, fs)
        | none => (0, fs)
      else (-1, fs)

/-- `removed` is the outcome of `sceIoRemove`, if it was called. -/
structure Returned where
  result : ℤ
  privateKey : Key
  created : Bool
  files : FileSystem Path
  removed : Option (Option ErrorCode)

/-- The new key, from what the random source has filled in. -/
def createPrivateKey (fs : FileSystem Path) (privateKey : Key) (o : Outcomes) : Returned :=
  let temporaryPath := Path.temporary o.processTime
  match writeExactFile fs temporaryPath privateKey.toList o with
  | (result, files) =>
    if result < 0 then ⟨result, privateKey, false, files, none⟩
    else
      match o.rename with
      | none => ⟨0, privateKey, true, rename files temporaryPath .privateKey, none⟩
      | some code =>
        let files := if o.remove = none then remove files temporaryPath else files
        ⟨code, privateKey, false, files, some o.remove⟩

def loadOrCreatePrivateKey (fs : FileSystem Path) (privateKey : Key) (o : Outcomes) : Returned :=
  match if o.opens then fs .privateKey else none with
  | some contents =>
    match o.read with
    | .error _ => ⟨-2, privateKey, false, fs, none⟩
    | .ok n =>
      let stored := readFront contents storedSize n
      if h : stored.length = 32 then ⟨0, ⟨stored.toArray, by simpa using h⟩, false, fs, none⟩
      else ⟨-2, privateKey, false, fs, none⟩
  | none =>
    if o.stats ∧ (fs .privateKey).isSome then ⟨o.openCode, privateKey, false, fs, none⟩
    else
      match o.random with
      | .error code => ⟨code, privateKey, false, fs, none⟩
      | .ok key => createPrivateKey fs (clamp key) o

/-- What the caller relies on: a key that is returned is the stored one and has replaced no other,
and a call that fails leaves all files as they were. -/
structure Keeps (fs : FileSystem Path) (r : Returned) : Prop where
  stored : r.result = 0 → r.files .privateKey = some r.privateKey.toList
  unchanged : r.result = 0 → ∀ contents, fs .privateKey = some contents →
    r.files .privateKey = some contents
  undone : r.result < 0 → (∀ code, r.removed ≠ some (some code)) → r.files = fs

/-- How many bytes get into the file. -/
def Write.count : Write → ℕ
  | .wrote n => n
  | .failed _ written => written

/-- The key is written as a whole and synced. -/
def Complete (data : List UInt8) (o : Outcomes) : Prop :=
  o.sync = none ∧ ∃ n, o.write = .wrote n ∧ data.length ≤ n

/-- The key file is neither opened nor found, and a temporary file is opened for this key. -/
structure Creates (fs : FileSystem Path) (o : Outcomes) (key : Key) : Prop where
  unseen : (fs .privateKey).isSome → o.opens = false ∧ o.stats = false
  random : ∃ drawn, o.random = .ok drawn ∧ key = clamp drawn
  opened : o.openTemporary = none

/-- The calls do not go wrong in a way that the function does not repair. -/
structure Clean (fs : FileSystem Path) (o : Outcomes) : Prop where
  whole : ∀ contents n, o.opens → fs .privateKey = some contents → o.read = .ok n →
    (readFront contents storedSize n).length = 32 → contents.length = 32
  unwritten : ∀ key, Creates fs o key → ¬ Complete key.toList o →
    fs (.temporary o.processTime) = some (key.toList.take o.write.count)
  unrenamed : ∀ key, Creates fs o key → Complete key.toList o → o.rename ≠ none → o.remove = none →
    fs (.temporary o.processTime) = none
  replaced : ∀ key, Creates fs o key → Complete key.toList o → o.rename = none →
    ∀ contents, fs .privateKey = some contents → contents = key.toList

section Create
variable {fs : FileSystem Path} {path : Path} {data : List UInt8} {o : Outcomes}

/-- The temporary file holds the bytes that were written, whether or not the call fails. -/
lemma writeExactFile_opened (fs : FileSystem Path) (path : Path) (data : List UInt8)
    (h : o.openTemporary = none) :
    (writeExactFile fs path data o).2 = put fs path (data.take o.write.count) ∧
      (Complete data o ∧ (writeExactFile fs path data o).1 = 0 ∨
        ¬ Complete data o ∧ (writeExactFile fs path data o).1 < 0) := by
  simp only [writeExactFile, h]
  cases hw : o.write with
  | failed code written =>
    refine ⟨put_put _ _ _ _, Or.inr ⟨?_, code.2⟩⟩
    rintro ⟨-, n, hn, -⟩
    rw [hw] at hn
    cases hn
  | wrote n =>
    have hcomplete : Complete data o ↔ o.sync = none ∧ data.length ≤ n := by
      simp [Complete, hw]
    rw [hcomplete]
    dsimp only
    by_cases hlength : data.length ≤ n
    · have hwhole : (data.take n).length = data.length := by rw [List.take_of_length_le hlength]
      rw [if_pos hwhole]
      cases hs : o.sync with
      | none => exact ⟨put_put _ _ _ _, Or.inl ⟨⟨rfl, hlength⟩, rfl⟩⟩
      | some code => exact ⟨put_put _ _ _ _, Or.inr ⟨by simp, code.2⟩⟩
    · have hshort : (data.take n).length ≠ data.length := by
        rw [List.length_take]
        omega
      rw [if_neg hshort]
      exact ⟨put_put _ _ _ _, Or.inr ⟨fun h => hlength h.2, by norm_num⟩⟩

lemma Complete.take_eq (h : Complete data o) : data.take o.write.count = data := by
  obtain ⟨-, n, hn, hlength⟩ := h
  rw [hn]
  exact List.take_of_length_le hlength

variable {key : Key}

/-- A key that cannot be written is left behind as far as it was written. -/
lemma createPrivateKey_incomplete (hopen : o.openTemporary = none)
    (hincomplete : ¬ Complete key.toList o) :
    Keeps fs (createPrivateKey fs key o) ↔
      fs (.temporary o.processTime) = some (key.toList.take o.write.count) := by
  obtain ⟨hfiles, hresult⟩ :=
    writeExactFile_opened fs (.temporary o.processTime) key.toList hopen
  have hnegative := (hresult.resolve_left fun h => hincomplete h.1).2
  have hcreate : createPrivateKey fs key o =
      ⟨(writeExactFile fs (.temporary o.processTime) key.toList o).1, key, false,
        put fs (.temporary o.processTime) (key.toList.take o.write.count), none⟩ := by
    simp only [createPrivateKey, if_pos hnegative, hfiles]
  rw [hcreate, ← put_eq_iff]
  constructor
  · intro h
    exact h.undone hnegative (by simp)
  · intro h
    exact ⟨fun hzero => absurd hzero hnegative.ne, fun hzero => absurd hzero hnegative.ne,
      fun _ _ => h⟩

lemma createPrivateKey_complete (hopen : o.openTemporary = none)
    (hcomplete : Complete key.toList o) : createPrivateKey fs key o =
      match o.rename with
      | none => ⟨0, key, true, rename (put fs (.temporary o.processTime) key.toList)
          (.temporary o.processTime) .privateKey, none⟩
      | some code => ⟨code, key, false, if o.remove = none then remove fs (.temporary o.processTime)
          else put fs (.temporary o.processTime) key.toList, some o.remove⟩ := by
  obtain ⟨hfiles, hresult⟩ :=
    writeExactFile_opened fs (.temporary o.processTime) key.toList hopen
  have hzero := (hresult.resolve_right fun h => h.1 hcomplete).2
  rw [hcomplete.take_eq] at hfiles
  simp only [createPrivateKey, hfiles, hzero, lt_irrefl, if_false, remove_put]

/-- A key that is renamed is stored, and replaces a file that was not found. -/
lemma createPrivateKey_renamed (hopen : o.openTemporary = none) (hcomplete : Complete key.toList o)
    (hrename : o.rename = none) : Keeps fs (createPrivateKey fs key o) ↔
      ∀ contents, fs .privateKey = some contents → contents = key.toList := by
  have hstored : rename (put fs (.temporary o.processTime) key.toList) (.temporary o.processTime)
      .privateKey .privateKey = some key.toList := by
    rw [rename_new (by simp), put_self]
  rw [createPrivateKey_complete hopen hcomplete, hrename]
  constructor
  · intro h contents hcontents
    have hunchanged := hstored.symm.trans (h.unchanged rfl contents hcontents)
    exact (Option.some.inj hunchanged).symm
  · intro h
    refine ⟨fun _ => hstored, fun _ contents hcontents => ?_, fun hnegative => ?_⟩
    · rw [h contents hcontents]
      exact hstored
    · exact absurd hnegative (lt_irrefl 0)

/-- A key that cannot be renamed is removed, with the file that it was written over. -/
lemma createPrivateKey_unrenamed (hopen : o.openTemporary = none)
    (hcomplete : Complete key.toList o) (hrename : o.rename ≠ none) :
    Keeps fs (createPrivateKey fs key o) ↔
      (o.remove = none → fs (.temporary o.processTime) = none) := by
  obtain ⟨code, hcode⟩ := Option.ne_none_iff_exists'.mp hrename
  rw [createPrivateKey_complete hopen hcomplete, hcode]
  constructor
  · intro h hremove
    have hundone := h.undone code.2 (by simp [hremove])
    rwa [if_pos hremove, remove_eq_iff] at hundone
  · intro h
    refine ⟨fun hzero => absurd hzero code.2.ne, fun hzero => absurd hzero code.2.ne,
      fun _ hremoved => ?_⟩
    have hremove : o.remove = none := by
      by_contra hne
      obtain ⟨code', hcode'⟩ := Option.ne_none_iff_exists'.mp hne
      exact hremoved code' (by rw [hcode'])
    exact (if_pos hremove).trans (remove_eq_iff.mpr (h hremove))

/-- A new key is kept as the condition says, whatever becomes of the calls. -/
lemma createPrivateKey_keeps_iff (fs : FileSystem Path) (key : Key) (o : Outcomes) :
    Keeps fs (createPrivateKey fs key o) ↔ (o.openTemporary = none →
      (¬ Complete key.toList o →
        fs (.temporary o.processTime) = some (key.toList.take o.write.count)) ∧
      (Complete key.toList o → o.rename ≠ none → o.remove = none →
        fs (.temporary o.processTime) = none) ∧
      (Complete key.toList o → o.rename = none →
        ∀ contents, fs .privateKey = some contents → contents = key.toList)) := by
  cases hopen : o.openTemporary with
  | some code =>
    have hcreate : createPrivateKey fs key o = ⟨code, key, false, fs, none⟩ := by
      simp only [createPrivateKey, writeExactFile, hopen, if_pos code.2]
    rw [hcreate]
    refine iff_of_true ⟨fun hzero => absurd hzero code.2.ne, fun hzero => absurd hzero code.2.ne,
      fun _ _ => rfl⟩ ?_
    simp
  | none =>
    by_cases hcomplete : Complete key.toList o
    · by_cases hrename : o.rename = none
      · rw [createPrivateKey_renamed hopen hcomplete hrename]
        simp [hcomplete, hrename]
      · rw [createPrivateKey_unrenamed hopen hcomplete hrename]
        simp [hcomplete, hrename]
    · rw [createPrivateKey_incomplete hopen hcomplete]
      simp [hcomplete]

end Create

section Load
variable {fs : FileSystem Path} {o : Outcomes}

/-- Nothing is created where the key file is seen. -/
lemma clean_of_seen (hseen : ∀ key, ¬ Creates fs o key)
    (hwhole : ∀ contents n, o.opens → fs .privateKey = some contents → o.read = .ok n →
      (readFront contents storedSize n).length = 32 → contents.length = 32) : Clean fs o :=
  ⟨hwhole, fun key h => absurd h (hseen key), fun key h => absurd h (hseen key),
    fun key h => absurd h (hseen key)⟩

/-- Where the key file is not seen, only the key that was drawn matters. -/
lemma clean_iff_of_unseen {drawn : Key}
    (hwhole : ∀ contents n, o.opens → fs .privateKey = some contents → o.read = .ok n →
      (readFront contents storedSize n).length = 32 → contents.length = 32)
    (hunseen : (fs .privateKey).isSome → o.opens = false ∧ o.stats = false)
    (hrandom : o.random = .ok drawn) :
    Clean fs o ↔ (o.openTemporary = none →
      (¬ Complete (clamp drawn).toList o →
        fs (.temporary o.processTime) = some ((clamp drawn).toList.take o.write.count)) ∧
      (Complete (clamp drawn).toList o → o.rename ≠ none → o.remove = none →
        fs (.temporary o.processTime) = none) ∧
      (Complete (clamp drawn).toList o → o.rename = none →
        ∀ contents, fs .privateKey = some contents → contents = (clamp drawn).toList)) := by
  have hcreates : ∀ key, Creates fs o key → key = clamp drawn ∧ o.openTemporary = none := by
    rintro key ⟨-, ⟨drawn', hdrawn, rfl⟩, hopen⟩
    rw [hrandom, Except.ok.injEq] at hdrawn
    exact ⟨by rw [hdrawn], hopen⟩
  constructor
  · intro h hopen
    have hkey : Creates fs o (clamp drawn) := ⟨hunseen, ⟨drawn, hrandom, rfl⟩, hopen⟩
    exact ⟨h.unwritten _ hkey, h.unrenamed _ hkey, h.replaced _ hkey⟩
  · intro h
    refine ⟨hwhole, ?_, ?_, ?_⟩
    · intro key hkey
      obtain ⟨rfl, hopen⟩ := hcreates key hkey
      exact (h hopen).1
    · intro key hkey
      obtain ⟨rfl, hopen⟩ := hcreates key hkey
      exact (h hopen).2.1
    · intro key hkey
      obtain ⟨rfl, hopen⟩ := hcreates key hkey
      exact (h hopen).2.2

lemma keeps_of_unchanged {result : ℤ} (hresult : result < 0) (buffer : Key) :
    Keeps fs ⟨result, buffer, false, fs, none⟩ :=
  ⟨fun hzero => absurd hzero hresult.ne, fun hzero => absurd hzero hresult.ne, fun _ _ => rfl⟩

/-- A key of the file is returned as it is stored, unless reading stopped short in a longer file. -/
lemma loadPrivateKey_keeps_iff {contents : List UInt8} (hopens : o.opens = true)
    (hcontents : fs .privateKey = some contents) (buffer : Key) :
    Keeps fs (loadOrCreatePrivateKey fs buffer o) ↔ Clean fs o := by
  have hseen : ∀ key, ¬ Creates fs o key := by
    intro key h
    have hunseen := (h.unseen (by simp [hcontents])).1
    rw [hopens] at hunseen
    cases hunseen
  simp only [loadOrCreatePrivateKey, hopens, if_true, hcontents]
  cases hread : o.read with
  | error code =>
    refine iff_of_true (keeps_of_unchanged (by norm_num) buffer) (clean_of_seen hseen ?_)
    simp [hread]
  | ok n =>
    dsimp only
    by_cases hcount : (readFront contents storedSize n).length = 32
    · rw [dif_pos hcount]
      constructor
      · intro h
        have hstored := h.stored rfl
        refine clean_of_seen hseen fun contents' n' _ hcontents' _ _ => ?_
        dsimp only at hstored
        rw [hcontents', Option.some.injEq] at hstored
        rw [hstored]
        simpa using hcount
      · intro h
        have hlength := h.whole contents n hopens hcontents hread hcount
        have hwhole : readFront contents storedSize n = contents :=
          (List.take_prefix _ _).eq_of_length (hcount.trans hlength.symm)
        refine ⟨fun _ => ?_, fun _ _ hsame => hsame, fun _ _ => rfl⟩
        exact hcontents.trans (by simp [hwhole])
    · rw [dif_neg hcount]
      refine iff_of_true (keeps_of_unchanged (by norm_num) buffer) (clean_of_seen hseen ?_)
      intro contents' n' _ hcontents' hread' hcount'
      rw [hcontents, Option.some.injEq] at hcontents'
      rw [hread, Except.ok.injEq] at hread'
      subst hcontents' hread'
      exact absurd hcount' hcount

/-- The function keeps what its caller relies on exactly if the calls that it makes do not go
wrong in one of the ways that it does not repair. -/
theorem loadOrCreatePrivateKey_keeps_iff (fs : FileSystem Path) (buffer : Key) (o : Outcomes) :
    Keeps fs (loadOrCreatePrivateKey fs buffer o) ↔ Clean fs o := by
  by_cases hopened : o.opens = true ∧ (fs .privateKey).isSome
  · obtain ⟨contents, hcontents⟩ := Option.isSome_iff_exists.mp hopened.2
    exact loadPrivateKey_keeps_iff hopened.1 hcontents buffer
  have hmissing : (if o.opens then fs .privateKey else none) = none := by
    by_cases hopens : o.opens = true
    · rw [if_pos hopens]
      exact Option.not_isSome_iff_eq_none.mp fun h => hopened ⟨hopens, h⟩
    · rw [if_neg hopens]
  have hwhole : ∀ contents n, o.opens → fs .privateKey = some contents → o.read = .ok n →
      (readFront contents storedSize n).length = 32 → contents.length = 32 :=
    fun contents n hopens hcontents => absurd ⟨hopens, by rw [hcontents]; rfl⟩ hopened
  simp only [loadOrCreatePrivateKey, hmissing]
  by_cases hstats : o.stats = true ∧ (fs .privateKey).isSome
  · rw [if_pos hstats]
    refine iff_of_true (keeps_of_unchanged o.openCode.2 buffer) (clean_of_seen ?_ hwhole)
    intro key h
    have hunseen := (h.unseen hstats.2).2
    rw [hstats.1] at hunseen
    cases hunseen
  rw [if_neg hstats]
  cases hrandom : o.random with
  | error code =>
    refine iff_of_true (keeps_of_unchanged code.2 buffer) (clean_of_seen ?_ hwhole)
    rintro key ⟨-, ⟨drawn, hdrawn, -⟩, -⟩
    rw [hrandom] at hdrawn
    cases hdrawn
  | ok drawn =>
    have hunseen : (fs .privateKey).isSome → o.opens = false ∧ o.stats = false := by
      intro hsome
      exact ⟨Bool.eq_false_iff.mpr fun h => hopened ⟨h, hsome⟩,
        Bool.eq_false_iff.mpr fun h => hstats ⟨h, hsome⟩⟩
    dsimp only
    rw [createPrivateKey_keeps_iff, clean_iff_of_unseen hwhole hunseen hrandom]

/-- Half of the key is written, and the file with it stays. -/
theorem loadOrCreatePrivateKey_leaves_temporary :
    ¬ Keeps (fun _ => none) (loadOrCreatePrivateKey (fun _ => none) (.replicate 32 0)
      { opens := false, openCode := ⟨-1, by decide⟩, read := .ok 0, stats := false,
        random := .ok (.replicate 32 7), processTime := 5, openTemporary := none,
        write := .wrote 16, sync := none, rename := none, remove := none }) := by
  intro h
  have hundone := h.undone (by decide) fun code hremoved => by cases hremoved
  have htemporary := congrFun hundone (.temporary 5)
  revert htemporary
  decide

end Load

end MoonlightVita.KeyFile
