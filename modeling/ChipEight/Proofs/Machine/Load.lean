import ChipEight.Machine.Basic
import ChipEight.Proofs.Calls
import ChipEight.Proofs.Memory

/-!
# Loading a program

Loading a program changes just the memory of a machine, and a program that fits is never refused by
a machine that holds none. The words that are fetched then are those of the program. When several
programs are to be loaded one after the other, the first one that fits is, and every other one is
refused.

## Main definitions

* `Memory.serve` — a memory is to load a program
* `Memory.chosen`, `Memory.reply` — which one of several programs is loaded, and what each of them
  meets

## Main results

* `Memory.serves_first` — what comes of loading several programs into a new memory
* `Machine.exists_loadRom`, `Machine.loadRom_fresh` — a program that fits is loaded, and only into
  memory
* `Machine.fetch_loaded`, `Machine.fetch_program` — the words that are fetched, and the first one of
  them
-/

namespace ChipEight

namespace Memory

/-- A memory is to load a program. -/
def serve (memory : Memory) (rom : Rom) : Except Fault (Unit × Memory) := do
  return ((), ← memory.loadRom rom)

/-- Whether a program fits into the memory behind `romStart`. -/
def fits (rom : Rom) : Bool :=
  decide (rom.size ≤ 0xE00)

/-- The program that is loaded when several are to be loaded: the first one that fits. -/
def chosen (roms : List Rom) : Option Rom :=
  roms.find? fits

/-- What the program at place `i` meets when the first one that fits is at place `first`. -/
def reply (first i : Nat) (rom : Rom) : Except Fault Unit :=
  if i < first then .error (.tooLarge rom.size)
  else if i = first then .ok ()
  else .error .alreadyLoaded

variable {memory next : Memory} {rom : Rom}

theorem serve_of_loaded (loaded : memory.romSize ≠ none) (rom : Rom) :
    memory.serve rom = .error .alreadyLoaded := by
  have some : memory.romSize.isSome = true := Option.isSome_iff_ne_none.mpr loaded
  rw [serve, loadRom, if_pos some]
  rfl

theorem serve_of_large (vacant : memory.romSize = none) (large : fits rom = false) :
    memory.serve rom = .error (.tooLarge rom.size) := by
  have none : ¬ memory.romSize.isSome = true := by simp [vacant]
  have tooLarge : maxRomSize < rom.size := Nat.lt_of_not_le (of_decide_eq_false large)
  rw [serve, loadRom, if_neg none, if_pos tooLarge]
  rfl

theorem exists_serve (vacant : memory.romSize = none) (small : fits rom = true) :
    ∃ next, memory.loadRom rom = .ok next ∧ memory.serve rom = .ok ((), next) ∧
      next.romSize ≠ none := by
  obtain ⟨next, loaded⟩ := exists_loadRom vacant (of_decide_eq_true small)
  refine ⟨next, loaded, ?_, ?_⟩
  · rw [serve, loaded]
    rfl
  · obtain ⟨-, -, rfl⟩ := loadRom_eq_ok loaded
    exact Option.some_ne_none _

/-- A memory that holds a program refuses all others. -/
theorem serveAll_of_loaded (loaded : memory.romSize ≠ none) (roms : List Rom) :
    serveAll serve memory roms = ⟨roms.map fun _ => .error .alreadyLoaded, memory⟩ := by
  induction roms with
  | nil => rfl
  | cons rom rest ih =>
    simp only [serveAll, attempt_of_error (serve_of_loaded loaded rom), ih, List.map_cons]

/-- The programs behind the first one that fits are too late. -/
theorem mapIdx_reply_zero (rom : Rom) (rest : List Rom) :
    (rom :: rest).mapIdx (reply 0) = .ok () :: rest.map fun _ => .error .alreadyLoaded := by
  rw [List.mapIdx_cons]
  refine congrArg (List.cons _) (List.mapIdx_eq_iff.mpr fun i => ?_)
  rw [List.getElem?_map]
  rfl

/-- A program in front that does not fit moves the first one that does by one place. -/
theorem mapIdx_reply_succ (first : Nat) (rom : Rom) (rest : List Rom) :
    (rom :: rest).mapIdx (reply (first + 1)) =
      .error (.tooLarge rom.size) :: rest.mapIdx (reply first) := by
  have front : reply (first + 1) 0 rom = .error (.tooLarge rom.size) :=
    if_pos (Nat.zero_lt_succ first)
  have behind : (fun i => reply (first + 1) (i + 1)) = reply first := by
    funext i rom
    simp only [reply, Nat.add_lt_add_iff_right, Nat.add_right_cancel_iff]
  rw [List.mapIdx_cons, front, behind]

/-- A memory without a program loads the first one that fits. -/
theorem serveAll_of_vacant (vacant : memory.romSize = none) (roms : List Rom) :
    (serveAll serve memory roms).answers = roms.mapIdx (reply (roms.findIdx fits)) ∧
      (chosen roms = none → (serveAll serve memory roms).final = memory) ∧
      ∀ rom, chosen roms = some rom →
        memory.loadRom rom = .ok (serveAll serve memory roms).final := by
  -- the memory has no program up to the first one that fits, and nothing happens behind it
  induction roms with
  | nil =>
    refine ⟨rfl, fun _ => rfl, fun rom found => ?_⟩
    cases found
  | cons rom rest ih =>
    cases small : fits rom with
    | false =>
      have skipped : chosen (rom :: rest) = chosen rest := List.find?_cons_of_neg (by simp [small])
      have later : (rom :: rest).findIdx fits = rest.findIdx fits + 1 := by
        rw [List.findIdx_cons, small, cond_false]
      rw [skipped, later, mapIdx_reply_succ]
      simp only [serveAll, attempt_of_error (serve_of_large vacant small)]
      exact ⟨congrArg _ ih.1, ih.2⟩
    | true =>
      obtain ⟨next, loaded, served, full⟩ := exists_serve vacant small
      have found : chosen (rom :: rest) = some rom := List.find?_cons_of_pos small
      have first : (rom :: rest).findIdx fits = 0 := by rw [List.findIdx_cons, small, cond_true]
      rw [found, first, mapIdx_reply_zero]
      simp only [serveAll, attempt_of_ok served, serveAll_of_loaded full, true_and]
      refine ⟨fun none => ?_, fun other same => ?_⟩
      · cases none
      · rw [← Option.some.inj same, loaded]

/-- What a memory holds that has loaded a program or none: the font, the program in its place, and
zeros everywhere else. -/
def Contains (memory : Memory) (loaded : Option Rom) : Prop :=
  memory.romSize = loaded.map Array.size ∧
    memory.cells.toList =
      font.toList ++ List.replicate (0x200 - 80) 0 ++ (loaded.getD #[]).toList.map UInt8.toNat ++
        List.replicate (0xE00 - (loaded.getD #[]).size) 0

theorem contains_fresh : Memory.fresh.Contains none := by
  have zeros : List.replicate (0x1000 - 80) 0 =
      List.replicate (0x200 - 80) 0 ++ (List.replicate 0xE00 0 : List Nat) := by
    rw [List.replicate_append_replicate]
  refine ⟨rfl, ?_⟩
  rw [toList_fresh, zeros, ← List.append_assoc, Option.getD_none, List.map_nil, List.append_nil]
  rfl

theorem contains_loadRom (loaded : Memory.fresh.loadRom rom = .ok next) :
    next.Contains (some rom) := by
  refine ⟨?_, toList_loadRom_fresh loaded⟩
  obtain ⟨-, -, rfl⟩ := loadRom_eq_ok loaded
  rfl

theorem kind_of_reply {first i : Nat} {fault : Fault} (refused : reply first i rom = .error fault) :
    fault.kind = .precondition := by
  unfold reply at refused
  split at refused
  · cases refused
    rfl
  · split at refused
    · cases refused
    · cases refused
      rfl

end Memory

namespace Machine

variable {σ : Type} {source : σ} {m : Machine σ} {rom : Rom}

/-- A program that fits is loaded into a new machine. -/
theorem exists_loadRom (source : σ) (fits : rom.size ≤ 0xE00) :
    ∃ m, (fresh source).loadRom rom = .ok m := by
  obtain ⟨memory, loaded⟩ : ∃ memory, Memory.fresh.loadRom rom = .ok memory :=
    Memory.exists_loadRom rfl fits
  exact ⟨_, bind_eq_ok_iff.mpr ⟨memory, loaded, rfl⟩⟩

/-- Loading a program into a new machine changes just the memory. -/
theorem loadRom_fresh (loaded : (fresh source).loadRom rom = .ok m) :
    ∃ memory, Memory.fresh.loadRom rom = .ok memory ∧ m = { fresh source with memory } := by
  obtain ⟨memory, inMemory, rest⟩ := bind_eq_ok_iff.mp loaded
  exact ⟨memory, inMemory, (Except.ok.inj rest).symm⟩

/-- The words that are fetched from a program are its words, high byte first. -/
theorem fetch_loaded {memory : Memory} (loaded : memory.loadRom rom = .ok m.memory) {i : Nat}
    (inside : i + 1 < rom.size) (pc : m.pc = 0x200 + i) :
    m.fetch = rom[i].toNat * 256 + rom[i + 1].toNat := by
  have high : m.memory.read (romStart + i : Nat) = rom[i].toNat :=
    Memory.read_program loaded (Nat.lt_of_succ_lt inside)
  have low : m.memory.read (romStart + (i + 1) : Nat) = rom[i + 1].toNat :=
    Memory.read_program loaded inside
  rw [fetch, pc, ← high, ← low]
  rfl

/-- The first word that is fetched is the first word of the program. -/
theorem fetch_program (loaded : (fresh source).loadRom rom = .ok m) (twoBytes : 1 < rom.size) :
    m.fetch = rom[0].toNat * 256 + rom[1].toNat := by
  obtain ⟨memory, inMemory, rfl⟩ := loadRom_fresh loaded
  exact fetch_loaded inMemory twoBytes rfl

end Machine

/-- **Loading once.** When programs of any sizes are to be loaded into a new memory one after the
other, the first one that fits is loaded. Those before it are refused as too large and those behind
it as too late, and a program that is refused changes nothing. Afterwards the memory holds the font,
the program that has been loaded and zeros everywhere else, and it knows the size of the program,
also of an empty one. The words that a machine with this memory fetches from the place of the
program are those of the program. -/
theorem Memory.serves_first {σ : Type} (roms : List Rom) :
    ∃ answers memory, serveAll serve Memory.fresh roms = ⟨answers, memory⟩ ∧
      answers = roms.mapIdx (reply (roms.findIdx fits)) ∧
      (∀ i fault, answers[i]? = some (.error fault) →
        fault.kind = .precondition ∧
          (serveAll serve Memory.fresh (roms.take (i + 1))).final =
            (serveAll serve Memory.fresh (roms.take i)).final) ∧
      memory.Contains (chosen roms) ∧ memory.cells.toList.length = 4096 ∧
      ∀ (m : Machine σ) (rom : Rom) (i : Nat) (inside : i + 1 < rom.size),
        chosen roms = some rom → m.memory = memory → m.pc = 0x200 + i →
          m.fetch = 256 * rom[i].toNat + rom[i + 1].toNat := by
  obtain ⟨answers, empty, loaded⟩ := serveAll_of_vacant (rfl : Memory.fresh.romSize = none) roms
  refine ⟨_, _, rfl, answers, fun i fault refused => ⟨?_, final_take_succ_of_refused refused⟩, ?_,
    Vector.length_toList, ?_⟩
  · rw [answers, List.getElem?_mapIdx] at refused
    obtain ⟨rom, -, replied⟩ := Option.map_eq_some_iff.mp refused
    exact kind_of_reply replied
  · cases found : chosen roms with
    | none =>
      rw [empty found]
      exact contains_fresh
    | some rom => exact contains_loadRom (loaded rom found)
  · intro m rom i inside found same pc
    have inMemory : Memory.fresh.loadRom rom = .ok m.memory := by rw [same, loaded rom found]
    rw [Machine.fetch_loaded inMemory inside pc, Nat.mul_comm]

/-- A program that is too large by one byte, one of three bytes, and an empty one. -/
def Memory.queue : List Rom :=
  [Array.replicate 0xE01 1, #[0xA2, 0x2A, 0x60], #[]]

/-- The program of three bytes is loaded, and its second word is the one that a machine meets at
`0x201`. -/
theorem Memory.serves_first_queue :
    (serveAll serve Memory.fresh queue).answers =
        [.error (.tooLarge 0xE01), .ok (), .error .alreadyLoaded] ∧
      (serveAll serve Memory.fresh queue).final.romSize = some 3 ∧
      (serveAll serve Memory.fresh (queue.take 1)).final =
        (serveAll serve Memory.fresh (queue.take 0)).final ∧
      ({ Machine.fresh () with memory := (serveAll serve Memory.fresh queue).final, pc := 0x201 } :
        Machine Unit).fetch = 0x2A60 := by
  obtain ⟨answers, memory, served, replies, refused, ⟨size, -⟩, -, fetched⟩ :=
    @serves_first Unit queue
  have large : fits (Array.replicate 0xE01 1) = false := by simp [fits]
  have small : fits #[0xA2, 0x2A, 0x60] = true := by decide
  have second : queue.findIdx fits = 1 := by simp [queue, List.findIdx_cons, large, small]
  have found : chosen queue = some #[0xA2, 0x2A, 0x60] := by simp [chosen, queue, large, small]
  have listed : answers = [.error (.tooLarge 0xE01), .ok (), .error .alreadyLoaded] := by
    rw [replies, second]
    simp [queue, reply]
  have first := (refused 0 (.tooLarge 0xE01) (by rw [listed]; rfl)).2
  rw [found] at size
  rw [served]
  exact ⟨listed, size, first, fetched _ _ 1 (by decide) found rfl rfl⟩

end ChipEight
