import WordMachine.Machine.Basic
import WordMachine.Instruction.Decode

/-!
# One step

A step fetches and decodes the instruction at the program counter, moves the counter past it,
and executes it. Source operands are read from the registers as they were before the
instruction. A jump or call replaces the counter; `call` pushes the address after itself.

A step that faults leaves the computer as it found it, its counter on the faulting
instruction, and counts no cycle; only the console may have changed (an `out` of a line feed
whose flush failed has written its byte). A step that succeeds counts one cycle and, when the
sink is enabled and has not failed, hands it a record; if the sink fails, it is not handed
records any more.
-/

namespace WordMachine

namespace Machine

/-- Executes an instruction whose words the program counter has already passed. -/
def execute (m : Machine) (i : Instruction) : Except Fault (Option Termination) × Machine :=
  let c := m.computer
  let v := fun (o : Operand) => o.resolve c.registers
  let assign := fun (r : Reg) (w : Word) => m.withComputer fun c => { c with registers := c.registers.set r w }
  let jump := fun (m : Machine) (a : Address) =>
    (m.emit (.jumping a)).withComputer fun c => { c with pc := a }
  match i with
  | .halt => (.ok (some .halted), m)
  | .set r a => (.ok none, assign r (v a))
  | .push a =>
    (.ok none, (m.emit (.pushed (v a))).withComputer fun c => { c with stack := v a :: c.stack })
  | .pop r =>
    match c.stack with
    | [] => (.ok (some .stackExhausted), m)
    | x :: rest =>
      (.ok none, (m.emit (.popped x)).withComputer fun c =>
        { c with stack := rest, registers := c.registers.set r x })
  | .eq r a b => (.ok none, assign r (if v a = v b then 1 else 0))
  | .gt r a b => (.ok none, assign r (if v a > v b then 1 else 0))
  | .jmp a => (.ok none, jump m (v a))
  | .jt t a => (.ok none, if v t ≠ 0 then jump m (v a) else m)
  | .jf t a => (.ok none, if v t = 0 then jump m (v a) else m)
  | .add r a b =>
    let s := Word.addMod (v a) (v b)
    (.ok none, (m.emit (.summed (v a) (v b) s)).withComputer fun c =>
      { c with registers := c.registers.set r s })
  | .mult r a b =>
    let p := Word.mulMod (v a) (v b)
    (.ok none, (m.emit (.multiplied (v a) (v b) p)).withComputer fun c =>
      { c with registers := c.registers.set r p })
  | .mod r a b =>
    if v b = 0 then (.error .divisionByZero, m)
    else
      let q := v a % v b
      (.ok none, (m.emit (.divided (v a) (v b) q)).withComputer fun c =>
        { c with registers := c.registers.set r q })
  | .and r a b => (.ok none, assign r (v a &&& v b))
  | .or r a b => (.ok none, assign r (v a ||| v b))
  | .not r a => (.ok none, assign r (Word.complement (v a)))
  | .rmem r a =>
    match c.memory.read (v a) with
    | .ok w => (.ok none, assign r w)
    | .error e => (.error (.memory e), m)
  | .wmem a b =>
    match c.memory.write (v a) (v b) with
    | .ok mem => (.ok none, m.withComputer fun c => { c with memory := mem })
    | .error e => (.error (.memory e), m)
  | .call a =>
    jump (m.withComputer fun c => { c with stack := c.pc :: c.stack }) (v a)
      |> fun m' => (.ok none, m')
  | .ret =>
    match c.stack with
    | [] => (.ok (some .stackExhausted), m)
    | x :: rest =>
      (.ok none, (m.emit (.returning x)).withComputer fun c => { c with stack := rest, pc := x })
  | .out a =>
    let (r, console) := m.console.writeChar (v a)
    (r.map fun _ => none, { m with console })
  | .input r =>
    let reading := m.console.readChar
    let m' := { m with console := reading.console }
    let m' := match reading.line with
      | some line => m'.emit (.lineRead (String.ofList line))
      | none => m'
    match reading.result with
    | .ok w => (.ok none, m'.withComputer fun c => { c with registers := c.registers.set r w })
    | .error e => (.error e, m')
  | .noop => (.ok none, m)

/-- Fetches, decodes and executes one instruction; `some` once the program stopped. -/
def step (m : Machine) : Except Fault (Option Termination) × Machine :=
  let c := m.computer
  match Instruction.decode c.memory c.pc with
  | .error e => (.error e, m)
  | .ok (i, next) =>
    let address := c.pc
    let traced :=
      if !c.traceFailed && m.sink.enabled then some (i.tracedOperands c.registers) else none
    let m1 := (m.withComputer fun c => { c with pc := next }).emit (.executing address i)
    match m1.execute i with
    | (.error e, m2) => (.error e, m2.withComputer fun c => { c with pc := address })
    | (.ok t, m2) =>
      let m3 := m2.withComputer fun c => { c with cycles := c.cycles + 1 }
      match traced with
      | none => (.ok t, m3)
      | some operands =>
        let record : TraceRecord :=
          { address, opcode := i.opcode, operands, registers := m3.computer.registers }
        let before := m3.sink.delivered
        match m3.sink.record record with
        | (none, sink) => (.ok t, { m3 with sink }.noteFlush before)
        | (some e, sink) =>
          (.ok t, (({ m3 with sink }.noteFlush before).withComputer fun c =>
            { c with traceFailed := true }).emit (.traceDisabled e))

end Machine

end WordMachine
