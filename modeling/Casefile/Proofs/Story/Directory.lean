import Casefile.Proofs.Story.Load
import Casefile.Story.Directory
import Mathlib.Data.List.Induction

namespace Casefile

/-!
A story is loaded from a directory exactly if the directory holds one; otherwise the first fault is
reported.
-/

section Files

variable {α : Type} [Wire α] {disk : Disk} {path : Path} {value other : α} {reason : StoryError}

theorem Disk.Decodes.of_readBytes {text : String} (found : disk.readBytes path = .ok text.toUTF8)
    (reads : Wire.read text = some value) : disk.Decodes path value :=
  ⟨text, by simp only [readText, found, fromUTF8?_toUTF8], reads⟩

theorem Disk.Decodes.unique (first : disk.Decodes path value) (second : disk.Decodes path other) :
    value = other := by
  obtain ⟨text, found, reads⟩ := first
  obtain ⟨again, foundAgain, readsAgain⟩ := second
  cases found.symm.trans foundAgain
  exact Option.some.inj (reads.symm.trans readsAgain)

theorem Disk.Decodes.congr {disk' : Disk} (decodes : disk.Decodes path value)
    (same : disk'.readText path = disk.readText path) : disk'.Decodes path value := by
  obtain ⟨text, found, reads⟩ := decodes
  exact ⟨text, same.trans found, reads⟩

namespace Story

theorem readFile_of_decodes (decodes : disk.Decodes path value) :
    readFile disk path = .ok value := by
  obtain ⟨text, found, reads⟩ := decodes
  simp only [readFile, found, reads]

theorem readFile_of_fault (fault : FileFault α disk path reason) :
    (readFile disk path : Except StoryError α) = .error reason := by
  cases fault with
  | unreadable failed => simp only [readFile, failed]
  | malformed found noValue => simp only [readFile, found, noValue]

/-- A file holds a value, or something is wrong with it. -/
theorem decodes_or_fault (α : Type) [Wire α] (disk : Disk) (path : Path) :
    (∃ value : α, disk.Decodes path value) ∨ ∃ reason, FileFault α disk path reason := by
  cases found : disk.readText path with
  | error reason => exact .inr ⟨_, .unreadable found⟩
  | ok text =>
      cases reads : (Wire.read text : Option α) with
      | none => exact .inr ⟨_, .malformed found reads⟩
      | some value => exact .inl ⟨value, text, found, reads⟩

end Story

end Files

namespace Story

variable {disk : Disk} {directory : Path} {story other : Story} {contact : Contact}
  {contacts before after : List Contact} {bundle : Bundle} {reason : StoryError}

/-! Contacts that are consistent, and the first one that is not. -/

theorem Consistent.nil : Consistent disk directory [] :=
  ⟨List.nodup_nil, List.forall_mem_nil _⟩

theorem consistent_concat_iff :
    Consistent disk directory (before ++ [contact]) ↔
      Consistent disk directory before ∧ contact.id ∉ before.map (·.id) ∧
        ∃ bundle : Bundle, disk.Decodes (bundlePath directory contact) bundle := by
  constructor
  · rintro ⟨distinct, decode⟩
    rw [List.map_append, List.map_singleton, List.nodup_append] at distinct
    obtain ⟨first, _, apart⟩ := distinct
    obtain ⟨early, last⟩ := List.forall_mem_append.mp decode
    exact ⟨⟨first, early⟩, fun known => apart _ known _ (List.mem_singleton_self _) rfl,
      last contact (List.mem_singleton_self _)⟩
  · rintro ⟨⟨first, early⟩, unknown, decodes⟩
    refine ⟨?_, List.forall_mem_append.mpr ⟨early, List.forall_mem_singleton.mpr decodes⟩⟩
    rw [List.map_append, List.map_singleton, List.nodup_append]
    refine ⟨first, List.pairwise_singleton _ _, fun id earlier other last same => ?_⟩
    rw [List.mem_singleton] at last
    exact unknown (last ▸ same ▸ earlier)

theorem Consistent.of_append (consistent : Consistent disk directory (before ++ after)) :
    Consistent disk directory before := by
  obtain ⟨distinct, decode⟩ := consistent
  rw [List.map_append, List.nodup_append] at distinct
  exact ⟨distinct.1, (List.forall_mem_append.mp decode).1⟩

/-- Contacts are consistent, or there is a first one with which something is wrong. -/
theorem consistent_or_fault (disk : Disk) (directory : Path) (contacts : List Contact) :
    Consistent disk directory contacts ∨
      ∃ before contact after reason, contacts = before ++ contact :: after ∧
        Consistent disk directory before ∧ ContactFault disk directory before contact reason := by
  induction contacts using List.reverseRecOn with
  | nil => exact .inl .nil
  | append_singleton before contact ih =>
      rcases ih with consistent | ⟨first, faulty, after, reason, rfl, consistent, fault⟩
      · by_cases known : contact.id ∈ before.map (·.id)
        · exact .inr ⟨before, contact, [], _, rfl, consistent, .repeated known⟩
        · rcases decodes_or_fault Bundle disk (bundlePath directory contact) with
            decodes | ⟨reason, fault⟩
          · exact .inl (consistent_concat_iff.mpr ⟨consistent, known, decodes⟩)
          · exact .inr ⟨before, contact, [], reason, rfl, consistent, .ofFile known fault⟩
      · exact .inr ⟨first, faulty, after ++ [contact], reason, by simp, consistent, fault⟩

/-! The story that contacts are gathered into. -/

theorem Gathered.empty : Gathered disk directory {} where
  consistent := .nil
  bundle := List.forall_mem_nil _
  known id := by simp [hasContact, Table.contains]

theorem Gathered.enlist (gathered : Gathered disk directory story)
    (unknown : contact.id ∉ story.contacts.map (·.id))
    (decodes : disk.Decodes (bundlePath directory contact) bundle) :
    Gathered disk directory (story.enlist contact bundle) := by
  have found (id : ContactId) : (story.enlist contact bundle).bundle? id =
      if id = contact.id then some bundle else story.bundle? id :=
    Table.find?_insert contact.id id bundle
  refine ⟨consistent_concat_iff.mpr ⟨gathered.consistent, unknown, bundle, decodes⟩, ?_, ?_⟩
  · intro listed isListed other
    rcases List.mem_append.mp isListed with earlier | new
    · have different : listed.id ≠ contact.id := fun same =>
        unknown (same ▸ List.mem_map_of_mem earlier)
      rw [found, if_neg different]
      exact gathered.bundle listed earlier other
    · obtain rfl := List.mem_singleton.mp new
      rw [found, if_pos rfl, Option.some.injEq]
      exact ⟨fun same => same ▸ decodes, decodes.unique⟩
  · intro id
    have known := gathered.known id
    have enlisted : (story.enlist contact bundle).hasContact id =
        (decide (id = contact.id) || story.hasContact id) :=
      story.hasContact_withBundle id contact.id bundle
    rw [enlisted, Bool.or_eq_true, decide_eq_true_iff, known, Story.enlist, List.map_append,
      List.mem_append, List.map_singleton, List.mem_singleton, or_comm]

/-- Nothing but the contacts and their files decides which story is gathered. -/
theorem Gathered.unique (gathered : Gathered disk directory story)
    (again : Gathered disk directory other) (same : story.contacts = other.contacts) :
    story = other := by
  have found : story.bundles = other.bundles := by
    apply Table.ext_find?
    intro id
    by_cases known : id ∈ story.contacts.map (·.id)
    · obtain ⟨contact, listed, rfl⟩ := List.mem_map.mp known
      obtain ⟨bundle, decodes⟩ := gathered.consistent.decode contact listed
      exact ((gathered.bundle contact listed bundle).mpr decodes).trans
        ((again.bundle contact (same ▸ listed) bundle).mpr decodes).symm
    · have here := mt (gathered.known id).mp known
      have there := mt (again.known id).mp (same ▸ known)
      rw [hasContact, Table.contains, Bool.not_eq_true, Option.isSome_eq_false_iff,
        Option.isNone_iff_eq_none] at here there
      rw [here, there]
  cases story
  cases other
  cases same
  cases found
  rfl

theorem any_listed_iff :
    (story.contacts.any fun listed => listed.id = contact.id) = true ↔
      contact.id ∈ story.contacts.map (·.id) := by
  rw [List.any_eq_true, List.mem_map]
  simp only [decide_eq_true_iff]

theorem loadContacts_of_fault (fault : ContactFault disk directory story.contacts contact reason)
    (rest : List Contact) :
    loadContacts disk directory story (contact :: rest) = .error reason := by
  rw [loadContacts_cons]
  cases fault with
  | repeated known => rw [if_pos (any_listed_iff.mpr known)]
  | ofFile unknown fault =>
      rw [if_neg fun listed => unknown (any_listed_iff.mp listed), readFile_of_fault fault]

/-- Consistent contacts are gathered, whatever comes after them. -/
theorem Gathered.loadContacts (gathered : Gathered disk directory story)
    (consistent : Consistent disk directory (story.contacts ++ before)) :
    ∃ more, Gathered disk directory more ∧ more.contacts = story.contacts ++ before ∧
      ∀ after, Story.loadContacts disk directory story (before ++ after) =
        Story.loadContacts disk directory more after := by
  induction before generalizing story with
  | nil => exact ⟨story, gathered, (List.append_nil _).symm, fun _ => rfl⟩
  | cons contact before ih =>
      rw [List.append_cons] at consistent
      obtain ⟨_, unknown, bundle, decodes⟩ := consistent_concat_iff.mp consistent.of_append
      obtain ⟨more, gatheredMore, listed, goesOn⟩ := ih (gathered.enlist unknown decodes) consistent
      refine ⟨more, gatheredMore, listed.trans (List.append_cons ..).symm, fun after => ?_⟩
      rw [List.cons_append, loadContacts_cons, if_neg fun isListed =>
        unknown (any_listed_iff.mp isListed), readFile_of_decodes decodes]
      exact goesOn after

theorem load_of_consistent (registry : disk.Decodes (registryPath directory) contacts)
    (consistent : Consistent disk directory contacts) :
    ∃ story, load disk directory = .ok story ∧ HeldIn disk directory story := by
  obtain ⟨story, gathered, listed, goesOn⟩ := Gathered.empty.loadContacts consistent
  refine ⟨story, ?_, gathered, listed ▸ registry⟩
  rw [load_of_registry (readFile_of_decodes registry), ← List.append_nil contacts, goesOn]
  rfl

theorem load_of_fault (fault : FirstFault disk directory reason) :
    load disk directory = .error reason := by
  cases fault with
  | registry fault => rw [load, readFile_of_fault fault]
  | contact registry consistent fault =>
      obtain ⟨story, _, listed, goesOn⟩ := Gathered.empty.loadContacts consistent
      rw [load_of_registry (readFile_of_decodes registry), goesOn]
      exact loadContacts_of_fault (listed ▸ fault) _

/-- A directory holds a story, or has a first fault. -/
theorem consistent_or_firstFault (disk : Disk) (directory : Path) :
    (∃ contacts, disk.Decodes (registryPath directory) contacts ∧
      Consistent disk directory contacts) ∨ ∃ reason, FirstFault disk directory reason := by
  rcases decodes_or_fault (List Contact) disk (registryPath directory) with
    ⟨contacts, registry⟩ | ⟨reason, fault⟩
  · rcases consistent_or_fault disk directory contacts with
      consistent | ⟨before, contact, after, reason, rfl, consistent, fault⟩
    · exact .inl ⟨contacts, registry, consistent⟩
    · exact .inr ⟨reason, .contact registry consistent fault⟩
  · exact .inr ⟨reason, .registry fault⟩

theorem Consistent.congr {disk' : Disk} (consistent : Consistent disk directory contacts)
    (same : ∀ path ∈ contacts.map (bundlePath directory),
      disk'.readText path = disk.readText path) : Consistent disk' directory contacts := by
  refine ⟨consistent.distinct, fun contact listed => ?_⟩
  obtain ⟨bundle, decodes⟩ := consistent.decode contact listed
  exact ⟨bundle, decodes.congr (same _ (List.mem_map_of_mem listed))⟩

/-- A story is loaded exactly if the list of contacts can be read and is consistent, and it is then
the one that the directory holds.  Otherwise the first fault is reported; a contact that was listed
before is reported on any disk with the same list and the same files of the contacts before it,
whatever its own file is there. -/
theorem loaded_or_first_fault (disk : Disk) (directory : Path) :
    ((∃ story, load disk directory = .ok story) ↔
      ∃ contacts, disk.Decodes (registryPath directory) contacts ∧
        Consistent disk directory contacts) ∧
    (∀ story, load disk directory = .ok story ↔ HeldIn disk directory story) ∧
    (∀ reason, load disk directory = .error reason ↔ FirstFault disk directory reason) ∧
    ∀ before contact after, disk.Decodes (registryPath directory) (before ++ contact :: after) →
      Consistent disk directory before → contact.id ∈ before.map (·.id) →
      ∀ disk' : Disk,
        (∀ path ∈ registryPath directory :: before.map (bundlePath directory),
          disk'.readText path = disk.readText path) →
        load disk' directory = .error (.duplicateContact contact.id) := by
  have outcome := consistent_or_firstFault disk directory
  refine ⟨⟨?_, ?_⟩, fun story => ⟨?_, ?_⟩, fun reason => ⟨?_, load_of_fault⟩, ?_⟩
  · rintro ⟨story, isLoaded⟩
    rcases outcome with consistent | ⟨reason, fault⟩
    · exact consistent
    · cases isLoaded.symm.trans (load_of_fault fault)
  · rintro ⟨contacts, registry, consistent⟩
    obtain ⟨story, isLoaded, _⟩ := load_of_consistent registry consistent
    exact ⟨story, isLoaded⟩
  · intro isLoaded
    rcases outcome with ⟨contacts, registry, consistent⟩ | ⟨reason, fault⟩
    · obtain ⟨held, isHeld, holds⟩ := load_of_consistent registry consistent
      cases isLoaded.symm.trans isHeld
      exact holds
    · cases isLoaded.symm.trans (load_of_fault fault)
  · intro holds
    obtain ⟨held, isHeld, gathered⟩ := load_of_consistent holds.registry holds.consistent
    have same := holds.registry.unique gathered.registry
    rw [isHeld, holds.toGathered.unique gathered.toGathered same]
  · intro failed
    rcases outcome with ⟨contacts, registry, consistent⟩ | ⟨first, fault⟩
    · obtain ⟨held, isHeld, _⟩ := load_of_consistent registry consistent
      cases failed.symm.trans isHeld
    · cases failed.symm.trans (load_of_fault fault)
      exact fault
  · intro before contact after registry consistent known disk' same
    obtain ⟨sameList, sameFiles⟩ := List.forall_mem_cons.mp same
    exact load_of_fault
      (.contact (registry.congr sameList) (consistent.congr sameFiles) (.repeated known))

/-- Two contacts have one file, and one of them is listed again, with a file that does not exist. -/
theorem loaded_or_first_fault_repeated :
    let disk : Disk := {
      root := .dir [("contacts", .dir [("a", .file "\x7b\x7d".toUTF8)]),
        ("registry.json", .file ("[\x7b\"id\":\"lena\",\"file\":\"a\"\x7d," ++
          "\x7b\"id\":\"ugo\",\"file\":\"a\"\x7d," ++
          "\x7b\"id\":\"lena\",\"file\":\"b\"\x7d]").toUTF8)]
      cwd := [] }
    disk.readText ⟨"/contacts/b"⟩ = .error .notFound ∧
    load disk ⟨"/"⟩ = .error (.duplicateContact ⟨"lena"⟩) := by
  intro disk
  let lena : Contact := { id := ⟨"lena"⟩, file := "a" }
  let ugo : Contact := { id := ⟨"ugo"⟩, file := "a" }
  have list : Json.read ("[\x7b\"id\":\"lena\",\"file\":\"a\"\x7d," ++
      "\x7b\"id\":\"ugo\",\"file\":\"a\"\x7d," ++
      "\x7b\"id\":\"lena\",\"file\":\"b\"\x7d]") = some (.array [
        .object [(some "id", .string "lena"), (some "file", .string "a")],
        .object [(some "id", .string "ugo"), (some "file", .string "a")],
        .object [(some "id", .string "lena"), (some "file", .string "b")]]) := by cbv
  have registry : disk.Decodes (registryPath ⟨"/"⟩)
      ([lena, ugo] ++ [{ id := ⟨"lena"⟩, file := "b" }]) :=
    .of_readBytes rfl (by rw [Wire.read, list]; rfl)
  have none : Json.read "\x7b\x7d" = some (.object []) := by cbv
  have bundle : disk.Decodes ⟨"/contacts/a"⟩ ({} : Bundle) :=
    .of_readBytes rfl (by rw [Wire.read, none]; rfl)
  have shared : ∀ contact ∈ [lena, ugo], bundlePath ⟨"/"⟩ contact = ⟨"/contacts/a"⟩ := by
    decide +kernel
  have consistent : Consistent disk ⟨"/"⟩ [lena, ugo] :=
    ⟨by decide, fun contact listed => ⟨{}, shared contact listed ▸ bundle⟩⟩
  obtain ⟨_, _, _, repeated⟩ := loaded_or_first_fault disk ⟨"/"⟩
  exact ⟨rfl, repeated [lena, ugo] _ [] registry consistent (by decide) disk fun _ _ => rfl⟩

end Story

end Casefile
