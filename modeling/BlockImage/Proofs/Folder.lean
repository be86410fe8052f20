import BlockImage.Folder
import BlockImage.Proofs.Bytes
import BlockImage.Proofs.Leads

/-!
# What becomes of a folder that is written to

A folder is seen as what is at each place. Writing a file changes what is at one place only, and paths lead where they
led before, since they only pass through folders.
-/
namespace BlockImage.Folder

variable {folder before middle after : Folder} {place other : Place} {entry : Entry} {bytes more : ByteArray}

/-! ### Places -/

theorem isTop_of_get?_ne (vacant : folder.get? place ≠ some .folder) : place.isTop = false := by
  cases top : place.isTop with
  | false => rfl
  | true => exact absurd (if_pos top) vacant

private theorem lookup_cons (name other : Place) (entry : Entry) (entries : List (Place × Entry)) :
    ((name, entry) :: entries).lookup other = if other = name then some entry else entries.lookup other := by
  by_cases wanted : other = name
  · subst wanted
    simp
  · have unequal : (other == name) = false := beq_eq_false_iff_ne.mpr wanted
    rw [List.lookup_cons, unequal, if_neg wanted]

private theorem lookup_map_put (entries : List (Place × Entry)) (place other : Place) (entry : Entry) :
    (entries.map fun old => if old.1 == place then (place, entry) else old).lookup other =
      if other = place ∧ entries.any (·.1 == place) then some entry else entries.lookup other := by
  induction entries with
  | nil => simp
  | cons old rest ih =>
    obtain ⟨name, stored⟩ := old
    rw [List.map_cons, List.any_cons, lookup_cons]
    by_cases here : name = place
    · subst here
      rw [if_pos (beq_self_eq_true _), lookup_cons, ih]
      by_cases wanted : other = name <;> simp [wanted]
    · have unequal : (name == place) = false := beq_eq_false_iff_ne.mpr here
      simp only [unequal, Bool.false_eq_true, if_false, Bool.false_or]
      rw [lookup_cons, ih]
      by_cases wanted : other = name
      · subst wanted
        simp [here]
      · simp [wanted]

private theorem lookup_append_new (entries : List (Place × Entry)) (place other : Place) (entry : Entry)
    (new : entries.any (·.1 == place) = false) :
    (entries ++ [(place, entry)]).lookup other = if other = place then some entry else entries.lookup other := by
  induction entries with
  | nil => exact lookup_cons ..
  | cons old rest ih =>
    obtain ⟨name, stored⟩ := old
    rw [List.any_cons, Bool.or_eq_false_iff, beq_eq_false_iff_ne] at new
    rw [List.cons_append, lookup_cons, lookup_cons, ih new.2]
    by_cases wanted : other = name
    · subst wanted
      simp [new.1]
    · simp [wanted]

theorem get?_put (below : place.isTop = false) :
    (folder.put place entry).get? other = if other = place then some entry else folder.get? other := by
  rw [put]
  split
  next there =>
    by_cases top : other.isTop
    · have apart : other ≠ place := fun same => by rw [same, below] at top; cases top
      rw [get?, if_pos top, if_neg apart, get?, if_pos top]
    · rw [get?, if_neg top, get?, if_neg top, lookup_map_put, there]
      simp only [and_true]
  next new =>
    by_cases top : other.isTop
    · have apart : other ≠ place := fun same => by rw [same, below] at top; cases top
      rw [get?, if_pos top, if_neg apart, get?, if_pos top]
    · rw [get?, if_neg top, get?, if_neg top]
      exact lookup_append_new _ _ _ _ (Bool.not_eq_true _ ▸ new)

theorem bytesAt_of_get? (there : folder.get? place = some (.file bytes)) : folder.bytesAt place = bytes := by
  rw [bytesAt, there]

theorem bytesAt_of_none (nothing : folder.get? place = none) : folder.bytesAt place = ByteArray.empty := by
  rw [bytesAt, nothing]

/-! ### Writing a file -/

/-- From one folder to the other only the file at a place is another one, and holds the given bytes. -/
structure Rewrites (before : Folder) (place : Place) (bytes : ByteArray) (after : Folder) : Prop where
  holds : after.get? place = some (.file bytes)
  others : ∀ other, other ≠ place → after.get? other = before.get? other

theorem rewrites_put (vacant : before.get? place ≠ some .folder) :
    Rewrites before place bytes (before.put place (.file bytes)) where
  holds := by rw [get?_put (isTop_of_get?_ne vacant), if_pos rfl]
  others _ apart := by rw [get?_put (isTop_of_get?_ne vacant), if_neg apart]

theorem rewrites_self (there : before.get? place = some (.file bytes)) : Rewrites before place bytes before :=
  ⟨there, fun _ _ => rfl⟩

namespace Rewrites

theorem bytesAt (rewrites : Rewrites before place bytes after) : after.bytesAt place = bytes :=
  bytesAt_of_get? rewrites.holds

theorem vacant (rewrites : Rewrites before place bytes after) : after.get? place ≠ some .folder := by
  rw [rewrites.holds]
  nofun

theorem trans (first : Rewrites before place bytes middle) (second : Rewrites middle place more after) :
    Rewrites before place more after :=
  ⟨second.holds, fun other apart => (second.others other apart).trans (first.others other apart)⟩

theorem put (rewrites : Rewrites before place bytes middle) (more : ByteArray) :
    Rewrites before place more (middle.put place (.file more)) :=
  rewrites.trans (rewrites_put rewrites.vacant)

/-- What was a folder is one still. -/
theorem folders (rewrites : Rewrites before place bytes after) (vacant : before.get? place ≠ some .folder) :
    ∀ other, before.get? other = some .folder → after.get? other = some .folder := by
  intro other there
  have apart : other ≠ place := by
    rintro rfl
    exact vacant there
  rw [rewrites.others other apart, there]

end Rewrites

/-! ### Where paths lead -/

section Paths

variable {path : String} {overwrite : Bool}

theorem enter_of_folders (stays : ∀ other, before.get? other = some .folder → after.get? other = some .folder)
    {step : String} {next : Place} (entered : before.enter place step = .ok next) :
    after.enter place step = .ok next := by
  rw [enter] at entered ⊢
  -- Only from a folder there is a step, and it does not depend on anything else.
  split at entered
  · cases entered
  · cases entered
  next there =>
    rw [stays _ there]
    exact entered

theorem steps_of_folders (stays : ∀ other, before.get? other = some .folder → after.get? other = some .folder)
    {steps : List String} {start : Place} (led : steps.foldlM before.enter start = .ok place) :
    steps.foldlM after.enter start = .ok place := by
  induction steps generalizing start with
  | nil => exact led
  | cons step rest ih =>
    rw [List.foldlM_cons, Except.bind_eq_ok] at led ⊢
    obtain ⟨next, entered, led⟩ := led
    exact ⟨next, enter_of_folders stays entered, ih led⟩

/-- A path leads to a place where a file may be made, which needs no trailing slash. -/
theorem resolveFile_eq_ok_iff : folder.resolveFile path = .ok place ↔
    ∃ route, Folder.route path = .ok route ∧ route.wantsFolder = false ∧
      route.steps.foldlM folder.enter [] = .ok place := by
  rw [resolveFile, Except.bind_eq_ok]
  constructor
  · rintro ⟨route, taken, led⟩
    refine ⟨route, taken, ?_⟩
    split at led
    next wants =>
      -- A path that asks for a folder is refused whatever its steps lead to.
      obtain ⟨_, _, led⟩ := Except.bind_eq_ok.mp led
      obtain ⟨_, _, led⟩ := Except.bind_eq_ok.mp led
      cases led
    next plain => exact ⟨Bool.not_eq_true _ ▸ plain, led⟩
  · rintro ⟨route, taken, plain, led⟩
    refine ⟨route, taken, ?_⟩
    rw [if_neg (by rw [plain]; exact Bool.false_ne_true)]
    exact led

theorem resolve_of_resolveFile (led : folder.resolveFile path = .ok place) :
    folder.resolve path = .ok (place, false) := by
  obtain ⟨route, taken, plain, led⟩ := resolveFile_eq_ok_iff.mp led
  rw [resolve, taken, ← plain]
  change (route.steps.foldlM folder.enter [] >>= _) = _
  rw [led]
  rfl

theorem resolveFile_of_folders (stays : ∀ other, before.get? other = some .folder → after.get? other = some .folder)
    (led : before.resolveFile path = .ok place) : after.resolveFile path = .ok place := by
  obtain ⟨route, taken, plain, led⟩ := resolveFile_eq_ok_iff.mp led
  exact resolveFile_eq_ok_iff.mpr ⟨route, taken, plain, steps_of_folders stays led⟩

/-- A name alone leads to its place in the top folder. -/
theorem resolveFile_of_name {name : String} (alone : name.splitOn "/" = [name]) (plain : name.contains '\x00' = false)
    (short : name.utf8ByteSize ≤ nameLimit) (named : Place.isName name = true) (some : name ≠ "") :
    folder.resolveFile name = .ok [name] := by
  have limit : nameLimit ≤ pathLimit := by decide
  have taken : route name = .ok { steps := [name], wantsFolder := false } := by
    have filled : name.isEmpty = false := by simpa using some
    have other : ¬ ([name].head? = Option.some "") := by simpa using some
    have last : ¬ ([name].getLast? = Option.some "" ∧ [name].getLast?.any Place.isName = true) :=
      fun both => some (Option.some.inj both.1)
    have kept : [name].filter (· ≠ "") = [name] := by simpa using some
    rw [route, plain, filled, alone, if_neg Bool.false_ne_true, if_neg Bool.false_ne_true, if_neg (by omega)]
    dsimp only
    rw [kept, if_neg other, decide_eq_false last]
    rfl
  have entered : folder.enter [] name = .ok [name] := by
    rw [Place.isName, Bool.and_eq_true, Bool.and_eq_true, bne_iff_ne, bne_iff_ne] at named
    rw [enter, if_neg (Nat.not_lt.mpr short), if_neg named.1.1, if_neg named.1.2]
    rfl
  refine resolveFile_eq_ok_iff.mpr ⟨_, taken, rfl, ?_⟩
  rw [List.foldlM_cons, entered]
  rfl

theorem find_of_resolveFile (led : folder.resolveFile path = .ok place)
    (there : folder.get? place = some (.file bytes)) : folder.find path = .ok (place, .file bytes) := by
  refine Except.bind_eq_ok.mpr ⟨_, resolve_of_resolveFile led, ?_⟩
  dsimp only
  rw [there]
  rfl

theorem find_of_none (led : folder.resolveFile path = .ok place) (nothing : folder.get? place = none) :
    folder.find path = .error .notFound := by
  simp only [find, resolve_of_resolveFile led, bind, Except.bind, nothing]
  rfl

theorem get?_of_find (found : folder.find path = .ok (place, entry)) : folder.get? place = some entry := by
  rw [find, Except.bind_eq_ok] at found
  obtain ⟨⟨led, wants⟩, _, found⟩ := found
  dsimp only at found
  split at found
  next => cases found
  next there =>
    split at found
    · cases found
    · cases found
      exact there
  next there =>
    cases found
    exact there

theorem exists?_of_resolveFile (led : folder.resolveFile path = .ok place)
    (there : folder.get? place = some (.file bytes)) : folder.exists? path = true := by
  rw [exists?, find_of_resolveFile led there]
  rfl

/-- A path leads to a place for a file, at which nothing is, or a file that may be overwritten. -/
structure Offers (folder : Folder) (path : String) (overwrite : Bool) (place : Place) : Prop where
  leads : folder.resolveFile path = .ok place
  free : folder.get? place = none ∨ overwrite = true ∧ ∃ bytes, folder.get? place = some (.file bytes)

namespace Offers

variable (offers : Offers folder path overwrite place)

include offers

theorem vacant : folder.get? place ≠ some .folder := by
  rcases offers.free with nothing | ⟨_, _, there⟩
  · rw [nothing]
    nofun
  · rw [there]
    nofun

/-- A file written elsewhere changes nothing about it. -/
theorem of_rewrites (rewrites : Rewrites folder other bytes after) (vacant : folder.get? other ≠ some .folder)
    (apart : place ≠ other) : Offers after path overwrite place where
  leads := resolveFile_of_folders (rewrites.folders vacant) offers.leads
  free := by
    rw [rewrites.others place apart]
    exact offers.free

theorem overwrites_or_missing : overwrite = true ∨ folder.exists? path = false := by
  rcases offers.free with nothing | ⟨overwrites, _⟩
  · refine .inr ?_
    rw [exists?, find_of_none offers.leads nothing]
    rfl
  · exact .inl overwrites

theorem openFile : ∃ after, folder.openFile path = .ok (place, after) ∧
    Rewrites folder place (folder.bytesAt place) after := by
  rcases offers.free with nothing | ⟨_, bytes, there⟩
  · refine ⟨_, Except.bind_eq_ok.mpr ⟨place, offers.leads, ?_⟩, rewrites_put offers.vacant⟩
    rw [nothing, bytesAt_of_none nothing]
    rfl
  · refine ⟨folder, Except.bind_eq_ok.mpr ⟨place, offers.leads, ?_⟩, rewrites_self ?_⟩
    · rw [there]
      rfl
    · rw [there, bytesAt_of_get? there]

theorem createFile (nothing : folder.get? place = none) : ∃ after, folder.createFile path = .ok (place, after) ∧
    Rewrites folder place ByteArray.empty after := by
  refine ⟨_, Except.bind_eq_ok.mpr ⟨place, offers.leads, ?_⟩, rewrites_put offers.vacant⟩
  rw [nothing]
  rfl

end Offers

/-- A file that could be opened for writing was offered, unless it should not be overwritten. -/
theorem offers_of_openFile (opened : folder.openFile path = .ok (place, after))
    (may : overwrite = true ∨ folder.exists? path = false) : folder.Offers path overwrite place := by
  rw [openFile, Except.bind_eq_ok] at opened
  obtain ⟨led, resolved, opened⟩ := opened
  split at opened
  next => cases opened
  next bytes there =>
    cases opened
    refine ⟨resolved, .inr ⟨?_, bytes, there⟩⟩
    -- The file exists, so that it may be overwritten.
    rw [exists?_of_resolveFile resolved there] at may
    exact may.resolve_right fun none => by cases none
  next nothing =>
    cases opened
    exact ⟨resolved, .inl nothing⟩

theorem offers_of_createFile (created : folder.createFile path = .ok (place, after)) :
    folder.Offers path overwrite place := by
  rw [createFile, Except.bind_eq_ok] at created
  obtain ⟨led, resolved, created⟩ := created
  split at created
  next => cases created
  next nothing =>
    cases created
    exact ⟨resolved, .inl nothing⟩

end Paths

end BlockImage.Folder
