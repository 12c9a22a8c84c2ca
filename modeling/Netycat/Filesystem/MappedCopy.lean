import Netycat.Filesystem.OpenFiles

/-!
# Copying a file through views of it

The example that maps a file for reading, makes a second file of its size, maps
that for writing and copies the bytes from one view to the other.  Each call of
the operating system may fail; the two paths may lead to one file.

An empty file has no mapping, so the example copies every file but an empty one.
-/

namespace Netycat.Filesystem

open Netycat.Corecat Region

/-- Which calls of the operating system are made, where it is not decided by
their arguments. -/
structure CopyCalls where
  createSource : Bool
  getFileSizeEx : Bool
  createSourceMapping : Bool
  mapSource : Bool
  createTarget : Bool
  setFilePointerEx : Bool
  setEndOfFile : Bool
  createTargetMapping : Bool
  mapTarget : Bool
deriving DecidableEq, Repr

namespace CopyCalls

/-- No call on the source fails. -/
def source (calls : CopyCalls) : Bool :=
  calls.createSource && calls.getFileSizeEx && calls.createSourceMapping &&
    calls.mapSource

/-- No call on the target fails. -/
def target (calls : CopyCalls) : Bool :=
  calls.createTarget && calls.setFilePointerEx && calls.setEndOfFile &&
    calls.createTargetMapping && calls.mapTarget

end CopyCalls

variable {Name : Type} [DecidableEq Name]

/-- `main` up to `data1`. -/
def openSource (noticed : Bool) (disk : Files Name) (source : Name)
    (calls : CopyCalls) :
    Except Exception (UInt64 × View Name × Files Name) := do
  let (file1, disk) ←
    OpenFile.ofPath noticed disk source .READ calls.createSource
  let size ← file1.getSize disk calls.getFileSizeEx
  let mappedFile1 ←
    View.ofFile file1 0 size View.Mode.READ disk calls.createSourceMapping
      calls.mapSource
  .ok (size, mappedFile1, disk)

/-- `main` from there to `data2`. -/
def openTarget (noticed : Bool) (disk : Files Name) (target : Name)
    (size : UInt64) (calls : CopyCalls) :
    Except Exception (View Name) × Files Name :=
  match
    OpenFile.ofPath noticed disk target (.READ_WRITE ||| .CREATE)
      calls.createTarget with
  | .error e => (.error e, disk)
  | .ok (file2, disk) =>
      let (sized, disk) :=
        file2.setSize size disk calls.setFilePointerEx calls.setEndOfFile
      (sized.bind fun _ =>
          View.ofFile file2 0 size View.Mode.READ_WRITE disk
            calls.createTargetMapping calls.mapTarget,
        disk)

/-- `main`, with the disk that it leaves.  An exception that it catches makes it
return 1, and bytes outside a view have no result. -/
def mappedCopy (noticed : Bool) (disk : Files Name) (calls : CopyCalls) :
    List Name → Option (Except Exception Unit × Files Name)
  | source :: target :: _ =>
      match openSource noticed disk source calls with
      | .error e => some (.error e, disk)
      | .ok (size, mappedFile1, disk) =>
          match openTarget noticed disk target size calls with
          | (.error e, disk) => some (.error e, disk)
          | (.ok mappedFile2, disk) => do
              let bytes ← mappedFile1.load disk size.toNat
              let disk ← mappedFile2.store disk bytes
              some (.ok (), disk)
  | _ =>
      some (.error (InvalidArgumentException "File name needed"), disk)

/-- What a file that is opened with `CREATE` contains at first. -/
def contentOrEmpty (disk : Files Name) (name : Name) : File :=
  (disk name).getD .empty

/-! ## The two modes -/

/-- `READ` opens a file that is there and leaves it alone. -/
theorem ofPath_READ (noticed : Bool) (disk : Files Name) (name : Name)
    (accepted : Bool) :
    OpenFile.ofPath noticed disk name .READ accepted =
      match (disk name).filter fun _ => accepted with
      | some _ => .ok (⟨⟨true, false⟩, some name⟩, disk)
      | none =>
          if noticed then .error (IOException "::CreateFileW failed")
          else .ok (⟨⟨true, false⟩, none⟩, disk) := by
  have keeps : opened .READ (disk name) = disk name := by
    cases disk name with
    | none => rfl
    | some content => rfl
  rw [OpenFile.ofPath_eq, keeps]
  refine (if_pos rfl).trans ?_
  cases accepted with
  | false =>
      cases disk name with
      | none => rfl
      | some content => rfl
  | true =>
      cases found : disk name with
      | none => rfl
      | some content =>
          have same : Function.update disk name (some content) = disk := by
            rw [← found, Function.update_eq_self]
          simp only [Option.filter_some, if_true, same]
          rfl

/-- `CREATE` leaves the content of a file alone, or makes an empty one. -/
theorem ofPath_CREATE (noticed : Bool) (disk : Files Name) (name : Name)
    (accepted : Bool) :
    OpenFile.ofPath noticed disk name (.READ_WRITE ||| .CREATE) accepted =
      if accepted then
        .ok
          (⟨⟨true, true⟩, some name⟩,
            Function.update disk name (some (contentOrEmpty disk name)))
      else if noticed then .error (IOException "::CreateFileW failed")
      else .ok (⟨⟨true, true⟩, none⟩, disk) := by
  have keeps : opened (.READ_WRITE ||| .CREATE) (disk name) =
      some (contentOrEmpty disk name) := by
    rw [contentOrEmpty]
    cases disk name with
    | none => rfl
    | some content => rfl
  rw [OpenFile.ofPath_eq, keeps]
  refine (if_pos rfl).trans ?_
  cases accepted with
  | false => rfl
  | true => rfl

/-! ## Views of whole files -/

theorem File.size_toNat (file : File) :
    (UInt64.ofNat file.content.length).toNat = file.content.length :=
  UInt64.toNat_ofNat_of_lt' (file.small.trans (by decide))

omit [DecidableEq Name] in
/-- A file with bytes can be viewed as a whole, unless the system refuses. -/
theorem make_whole {disk : Files Name} {file : OpenFile Name} {name : Name}
    {content : File} (handle : file.handle = some name)
    (found : disk name = some content) (nonempty : content.content ≠ [])
    (readable : file.readable = true) (writable : Bool)
    (rights : writable = true → file.writable = true)
    (mapped viewed : Bool) :
    View.make file 0 (UInt64.ofNat content.content.length) writable false
        disk mapped viewed =
      if mapped then
        if viewed then
          .ok
            ⟨name, 0, UInt64.ofNat content.content.length, writable, false⟩
        else .error (IOException "::MapViewOfFile failed")
      else .error (IOException "::CreateMappedFileW failed") := by
  have views :
      View.MapViewOfFile content 0 (UInt64.ofNat content.content.length)
        viewed = viewed := by
    have positive := List.length_pos_of_ne_nil nonempty
    simp [View.MapViewOfFile, content.size_toNat, positive]
  have maps : View.CreateFileMappingW file disk writable mapped =
      if mapped then some (name, content) else none := by
    rw [View.CreateFileMappingW, handle]
    cases writable with
    | false => simp [found, readable, nonempty]
    | true => simp [found, readable, nonempty, rights rfl]
  rw [View.make, Bool.not_false, Bool.and_true, maps]
  cases mapped with
  | false => rfl
  | true => simp only [if_true, views]

omit [DecidableEq Name] in
/-- A file without bytes cannot be mapped. -/
theorem make_empty {disk : Files Name} {file : OpenFile Name} {name : Name}
    {content : File} (handle : file.handle = some name)
    (found : disk name = some content) (empty : content.content = [])
    (size : UInt64) (writable copy mapped viewed : Bool) :
    View.make file 0 size writable copy disk mapped viewed =
      .error (IOException "::CreateMappedFileW failed") := by
  rw [View.make, View.CreateFileMappingW, handle]
  simp [found, empty]

/-! ## The source -/

/-- The source is there and has bytes. -/
def HasBytes (disk : Files Name) (source : Name) : Prop :=
  ∃ file, disk source = some file ∧ file.content ≠ []

/-- A file that is not opened is noticed at the latest when its size is asked
for. -/
theorem openSource_unopened (noticed : Bool) {disk : Files Name}
    {source : Name} {calls : CopyCalls}
    (unopened :
      ((disk source).filter fun _ => calls.createSource) = none) :
    ∃ e, openSource noticed disk source calls = .error e := by
  rw [openSource, ofPath_READ, unopened]
  cases noticed with
  | false => exact ⟨_, rfl⟩
  | true => exact ⟨_, rfl⟩

theorem openSource_opened (noticed : Bool) {disk : Files Name}
    {source : Name} {calls : CopyCalls} {file : File}
    (found : disk source = some file) (created : calls.createSource = true) :
    openSource noticed disk source calls =
      (file.getSize calls.getFileSizeEx).bind fun size =>
        (View.make ⟨⟨true, false⟩, some source⟩ 0 size false false disk
            calls.createSourceMapping calls.mapSource).bind fun view =>
          .ok (size, view, disk) := by
  rw [openSource, ofPath_READ, found, created]
  show (OpenFile.getSize ⟨⟨true, false⟩, some source⟩ disk
    calls.getFileSizeEx).bind _ = _
  rw [OpenFile.getSize, Option.bind_some, found]
  rfl

/-- Everything up to `data1` goes well, or an exception is thrown. -/
theorem openSource_cases (noticed : Bool) (disk : Files Name)
    (source : Name) (calls : CopyCalls) :
    (∃ file,
      disk source = some file ∧ file.content ≠ [] ∧ calls.source = true ∧
        openSource noticed disk source calls =
          .ok
            (UInt64.ofNat file.content.length,
              ⟨source, 0, UInt64.ofNat file.content.length, false, false⟩,
              disk)) ∨
      ¬ (HasBytes disk source ∧ calls.source = true) ∧
        ∃ e, openSource noticed disk source calls = .error e := by
  cases created : calls.createSource with
  | false =>
      refine .inr ⟨?_, openSource_unopened noticed (by rw [created]; simp)⟩
      simp [CopyCalls.source, created]
  | true =>
      cases found : disk source with
      | none =>
          refine .inr ⟨?_, openSource_unopened noticed (by rw [found]; rfl)⟩
          simp [HasBytes, found]
      | some file =>
          rw [openSource_opened noticed found created, File.getSize,
            GetFileSizeEx]
          cases sized : calls.getFileSizeEx with
          | false =>
              refine .inr ⟨?_, _, rfl⟩
              simp [CopyCalls.source, sized]
          | true =>
              simp only [if_true, Except.bind]
              by_cases empty : file.content = []
              · refine .inr ⟨?_, ?_⟩
                · simp [HasBytes, found, empty]
                · rw [make_empty rfl found empty]
                  exact ⟨_, rfl⟩
              · rw [make_whole rfl found empty rfl false
                  (fun writes => absurd writes Bool.false_ne_true)]
                cases mapped : calls.createSourceMapping with
                | false =>
                    refine .inr ⟨?_, _, rfl⟩
                    simp [CopyCalls.source, mapped]
                | true =>
                    cases viewed : calls.mapSource with
                    | false =>
                        refine .inr ⟨?_, _, rfl⟩
                        simp [CopyCalls.source, viewed]
                    | true =>
                        refine .inl ⟨file, rfl, empty, ?_, rfl⟩
                        simp [CopyCalls.source, created, sized, mapped,
                          viewed]

/-! ## The target -/

theorem setSize_writable {disk : Files Name} {file : OpenFile Name}
    {name : Name} {content : File} {size : UInt64}
    (handle : file.handle = some name) (found : disk name = some content)
    (writable : file.writable = true) (small : size.toNat < 2 ^ 63)
    (moved ended : Bool) :
    file.setSize size disk moved ended =
      if moved then
        if ended then
          (.ok (),
            Function.update disk name (some (content.resized size small)))
        else (.error (IOException "::SetEndOfFile failed"), disk)
      else (.error (IOException "::SetFilePointerEx failed"), disk) := by
  rw [OpenFile.setSize, handle]
  cases moved with
  | false => simp
  | true =>
      simp only [small, and_self, dif_pos, if_true, found, writable,
        Bool.and_true]

/-- Everything up to `data2` goes well and the target has the size, or an
exception is thrown, when it may have it or not. -/
theorem openTarget_cases (noticed : Bool) (disk : Files Name)
    (target : Name) {size : UInt64} (small : size.toNat < 2 ^ 63)
    (positive : 0 < size.toNat) (calls : CopyCalls) :
    (calls.target = true ∧
      openTarget noticed disk target size calls =
        (.ok ⟨target, 0, size, true, false⟩,
          Function.update disk target
            (some ((contentOrEmpty disk target).resized size small)))) ∨
      calls.target = false ∧
        ∃ e left,
          openTarget noticed disk target size calls = (.error e, left) ∧
            (left = disk ∨
              left = Function.update disk target
                (some (contentOrEmpty disk target)) ∨
              left = Function.update disk target
                (some ((contentOrEmpty disk target).resized size small))) := by
  have made :
      Function.update disk target (some (contentOrEmpty disk target))
        target = some (contentOrEmpty disk target) :=
    Function.update_self ..
  have sized :
      Function.update disk target
          (some ((contentOrEmpty disk target).resized size small)) target =
        some ((contentOrEmpty disk target).resized size small) :=
    Function.update_self ..
  have length :=
    (contentOrEmpty disk target).resized_length size small
  have nonempty :
      ((contentOrEmpty disk target).resized size small).content ≠ [] := by
    apply List.ne_nil_of_length_pos
    rw [length]
    exact positive
  have resizes :=
    @setSize_writable _ _ _ ⟨⟨true, true⟩, some target⟩ target _ size rfl
      made rfl small calls.setFilePointerEx calls.setEndOfFile
  rw [openTarget, ofPath_CREATE]
  cases created : calls.createTarget with
  | false =>
      refine .inr ⟨by simp [CopyCalls.target, created], ?_⟩
      cases noticed with
      | false => exact ⟨_, disk, rfl, .inl rfl⟩
      | true => exact ⟨_, disk, rfl, .inl rfl⟩
  | true =>
      simp only [if_true, resizes, Function.update_idem]
      cases moved : calls.setFilePointerEx with
      | false =>
          refine .inr ⟨by simp [CopyCalls.target, moved], ?_⟩
          exact ⟨_, _, rfl, .inr (.inl rfl)⟩
      | true =>
          cases ended : calls.setEndOfFile with
          | false =>
              refine .inr ⟨by simp [CopyCalls.target, ended], ?_⟩
              exact ⟨_, _, rfl, .inr (.inl rfl)⟩
          | true =>
              have whole :=
                @make_whole _ _ ⟨⟨true, true⟩, some target⟩ target _ rfl sized
                  nonempty rfl true (fun _ => rfl) calls.createTargetMapping
                  calls.mapTarget
              rw [length, UInt64.ofNat_toNat] at whole
              simp only [if_true, Except.bind]
              rw [View.ofFile, if_neg (by decide), if_pos rfl, whole]
              cases mapped : calls.createTargetMapping with
              | false =>
                  refine .inr ⟨by simp [CopyCalls.target, mapped], ?_⟩
                  exact ⟨_, _, rfl, .inr (.inr rfl)⟩
              | true =>
                  cases viewed : calls.mapTarget with
                  | false =>
                      refine .inr ⟨by simp [CopyCalls.target, viewed], ?_⟩
                      exact ⟨_, _, rfl, .inr (.inr rfl)⟩
                  | true =>
                      refine .inl ⟨?_, rfl⟩
                      simp [CopyCalls.target, created, moved, ended, mapped,
                        viewed]

/-! ## The copy -/

theorem File.of_content {file other : File}
    (same : file.content = other.content) : file = other := by
  cases file with
  | mk content small =>
      cases other with
      | mk bytes few =>
          cases same
          rfl

theorem File.resized_same {file : File} {size : UInt64}
    (small : size.toNat < 2 ^ 63)
    (same : size.toNat = file.content.length) :
    file.resized size small = file := by
  apply File.of_content
  show file.content.take size.toNat ++
    List.replicate (size.toNat - file.content.length) 0 = file.content
  rw [same, List.take_length, Nat.sub_self, List.replicate_zero,
    List.append_nil]

omit [DecidableEq Name] in
/-- All of a file is read through a view of all of it. -/
theorem load_whole {disk : Files Name} {view : View Name} {file : File}
    (found : disk view.name = some file) (start : view.offset = 0)
    (size : view.size = UInt64.ofNat file.content.length) :
    view.load disk view.size.toNat = some file.content := by
  have whole : slice file.content 0 file.content.length = file.content := by
    rw [slice, List.drop_zero, List.take_length]
  rw [View.load, found, start, size, file.size_toNat]
  simp [whole]

/-- What is stored through a view of all of a file is what it contains then. -/
theorem store_whole {disk : Files Name} {view : View Name} {old new : File}
    (found : disk view.name = some old) (start : view.offset = 0)
    (writable : view.writable = true) (shared : view.copy = false)
    (size : view.size = UInt64.ofNat new.content.length)
    (same : old.content.length = new.content.length) :
    view.store disk new.content =
      some (Function.update disk view.name (some new)) := by
  have whole : patch old.content 0 new.content = new.content := by
    rw [patch, List.take_zero, List.nil_append, Nat.zero_add, ← same,
      List.drop_length, List.append_nil]
  cases view with
  | mk name offset count written copied =>
      cases start
      cases writable
      cases shared
      cases size
      simp only [View.store, found, Option.bind_eq_bind, Option.bind_some]
      rw [dif_pos ⟨trivial, new.size_toNat.ge, by simp [same]⟩]
      refine congrArg some (congrArg _ (congrArg some ?_))
      exact File.of_content whole

/-- The target with the size of the source, when both may be one file. -/
theorem sized_source {disk : Files Name} {source : Name} {file : File}
    (found : disk source = some file) (target : Name) {size : UInt64}
    (small : size.toNat < 2 ^ 63)
    (same : size.toNat = file.content.length) :
    Function.update disk target
        (some ((contentOrEmpty disk target).resized size small)) source =
      some file := by
  by_cases one : source = target
  · cases one
    rw [Function.update_self, contentOrEmpty, found, Option.getD_some,
      File.resized_same small same]
  · rw [Function.update_of_ne one, found]

/-- The target as it is opened, when both may be one file. -/
theorem created_source {disk : Files Name} {source : Name} {file : File}
    (found : disk source = some file) (target : Name) :
    Function.update disk target (some (contentOrEmpty disk target)) source =
      some file := by
  by_cases one : source = target
  · cases one
    rw [Function.update_self, contentOrEmpty, found, Option.getD_some]
  · rw [Function.update_of_ne one, found]

/-- With the source read and the target made, the bytes are copied. -/
theorem mappedCopy_done (noticed : Bool) {disk : Files Name}
    {source target : Name} {calls : CopyCalls} {file : File}
    (found : disk source = some file)
    (opens : openSource noticed disk source calls =
      .ok
        (UInt64.ofNat file.content.length,
          ⟨source, 0, UInt64.ofNat file.content.length, false, false⟩, disk))
    (small : (UInt64.ofNat file.content.length).toNat < 2 ^ 63)
    (makes : openTarget noticed disk target
        (UInt64.ofNat file.content.length) calls =
      (.ok ⟨target, 0, UInt64.ofNat file.content.length, true, false⟩,
        Function.update disk target
          (some
            ((contentOrEmpty disk target).resized
              (UInt64.ofNat file.content.length) small)))) :
    mappedCopy noticed disk calls [source, target] =
      some (.ok (), Function.update disk target (some file)) := by
  have reads :=
    @load_whole _
      (Function.update disk target
        (some
          ((contentOrEmpty disk target).resized
            (UInt64.ofNat file.content.length) small)))
      ⟨source, 0, UInt64.ofNat file.content.length, false, false⟩ file
      (sized_source found target small file.size_toNat) rfl rfl
  have stores :=
    @store_whole _ _
      (Function.update disk target
        (some
          ((contentOrEmpty disk target).resized
            (UInt64.ofNat file.content.length) small)))
      ⟨target, 0, UInt64.ofNat file.content.length, true, false⟩ _ file
      (Function.update_self ..) rfl rfl rfl rfl
      ((File.resized_length ..).trans file.size_toNat)
  rw [mappedCopy, opens]
  simp only [makes, reads, stores, Option.bind_eq_bind, Option.bind_some,
    Function.update_idem]

/--
For every disk, every two paths and every way in which the calls of the
operating system succeed and fail, the example ends with the source as it was
and no file but the target touched.  It succeeds exactly when the source is
there and not empty and no call is refused, and the target is the source then.
-/
theorem mappedCopy_copies
    (noticed : Bool)
    (disk : Files Name)
    (source target : Name)
    (calls : CopyCalls) :
    ∃ ending left,
      mappedCopy noticed disk calls [source, target] = some (ending, left) ∧
        left source = disk source ∧
        (∀ name, name ≠ target → left name = disk name) ∧
        (ending = .ok () ↔
          HasBytes disk source ∧ calls.source = true ∧
            calls.target = true) ∧
        (ending = .ok () → left target = disk source) ∧
        (¬ HasBytes disk source → left = disk) := by
  rcases openSource_cases noticed disk source calls with
    ⟨file, found, nonempty, reads, opens⟩ | ⟨refused, e, opens⟩
  · have bytes : HasBytes disk source := ⟨file, found, nonempty⟩
    have small : (UInt64.ofNat file.content.length).toNat < 2 ^ 63 := by
      rw [file.size_toNat]
      exact file.small
    have positive : 0 < (UInt64.ofNat file.content.length).toNat := by
      rw [file.size_toNat]
      exact List.length_pos_of_ne_nil nonempty
    rcases openTarget_cases noticed disk target small positive calls with
      ⟨writes, makes⟩ | ⟨refused, e, left, makes, which⟩
    · refine ⟨_, _, mappedCopy_done noticed found opens small makes, ?_, ?_,
        ?_, ?_, fun none => absurd bytes none⟩
      · by_cases one : source = target
        · cases one
          rw [Function.update_self, found]
        · rw [Function.update_of_ne one]
      · intro name other
        exact Function.update_of_ne other ..
      · simp [bytes, reads, writes]
      · intro _
        rw [Function.update_self, found]
    · refine ⟨.error e, left, ?_, ?_, ?_, ?_, ?_,
        fun none => absurd bytes none⟩
      · rw [mappedCopy, opens]
        simp only [makes]
      · rw [found]
        rcases which with rfl | rfl | rfl
        · exact found
        · exact created_source found target
        · exact sized_source found target small file.size_toNat
      · intro name other
        rcases which with rfl | rfl | rfl
        · rfl
        · exact Function.update_of_ne other ..
        · exact Function.update_of_ne other ..
      · simp [refused]
      · intro ok
        cases ok
  · refine ⟨.error e, disk, ?_, rfl, fun _ _ => rfl, ?_, ?_, fun _ => rfl⟩
    · rw [mappedCopy, opens]
    · constructor
      · intro ok
        cases ok
      · intro done
        exact absurd ⟨done.1, done.2.1⟩ refused
    · intro ok
      cases ok

end Netycat.Filesystem
