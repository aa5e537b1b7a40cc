import Luagent.Lua
import Luagent.Proofs.UploadSoundness

/-! The numbers of a relay, from the request's text to the relay. A port becomes
16 bits wide and an id 32 on the way, without a check, and the answer names the
number as it was asked for. -/

namespace Luagent.Proofs.RelayNumbers
open Foundation

private theorem toUInt16_toNat (value : Int) : ((toUInt16 value).toNat : Int) = value % 2 ^ 16 := by
  have small : (value % 2 ^ 16).toNat < 2 ^ 16 := by omega
  rw [toUInt16, Nat.toUInt16, UInt16.toNat_ofNat', Nat.mod_eq_of_lt small]
  omega

private theorem idBits_toNat (value : Int) : (((value % 2 ^ 32).toNat.toUInt32).toNat : Int) = value % 2 ^ 32 := by
  have small : (value % 2 ^ 32).toNat < 2 ^ 32 := by omega
  rw [Nat.toUInt32, UInt32.toNat_ofNat', Nat.mod_eq_of_lt small]
  omega

theorem ofInt_integer (value : Int) : (Number.ofInt value).integer = some value := rfl

theorem ofInt_text (value : Int) : (Number.ofInt value).text = signedDecimal value := rfl

private theorem luaStr2int_signedDecimal {value : Int} (low : -2 ^ 63 ≤ value) (high : value < 2 ^ 63) :
    luaStr2int (signedDecimal value) = some value := by
  have unspaced (number : Nat) : (decimal number).dropWhile isSpace = decimal number := by
    obtain ⟨first, rest, shape⟩ := List.exists_cons_of_ne_nil (decimal_ne_nil number)
    have digit : isDigit first = true := decimal_digits (by rw [shape]; exact List.mem_cons_self)
    rw [shape, List.dropWhile_cons_of_neg (by simp [(digit_plain digit).1])]
  have unsigned (number : Nat) : (decimal number).head? ≠ some 45 ∧ (decimal number).head? ≠ some 43 := by
    obtain ⟨first, rest, shape⟩ := List.exists_cons_of_ne_nil (decimal_ne_nil number)
    have digit : isDigit first = true := decimal_digits (by rw [shape]; exact List.mem_cons_self)
    rw [shape]
    simp [(digit_plain digit).2.1, (digit_plain digit).2.2]
  -- no digit is an `x`
  have unprefixed (number : Nat) (mark : UInt8) (letter : isDigit mark = false) : (decimal number).take 2 ≠ [48, mark] := by
    intro marked
    have member : mark ∈ decimal number := List.mem_of_mem_take (by rw [marked]; simp)
    simp [decimal_digits member] at letter
  have digits (number : Nat) : leadingDigits isDigit (decimal number) = some (decimal number) := by
    have all : (decimal number).takeWhile isDigit = decimal number :=
      List.takeWhile_eq_self_iff.mpr fun _ member => decimal_digits member
    simp [leadingDigits, all, decimal_ne_nil]
  have small : ascii "0x" = [48, 120] := by decide
  have large : ascii "0X" = [48, 88] := by decide
  cases value with
  | ofNat number =>
    have fits : number < 9223372036854775808 := by
      rw [Int.ofNat_eq_natCast] at high
      omega
    simp [luaStr2int, signedDecimal, unspaced, unsigned, small, large, unprefixed number 120 (by decide),
      unprefixed number 88 (by decide), digits, digitsValue_decimal, fits]
  | negSucc number =>
    have minus : (ascii "-" ++ decimal (number + 1)).dropWhile isSpace = 45 :: decimal (number + 1) := by
      rw [show ascii "-" = [45] from by decide]
      exact List.dropWhile_cons_of_neg (by decide)
    have fits : number < 9223372036854775808 := by omega
    simp [luaStr2int, signedDecimal, minus, small, large, unprefixed (number + 1) 120 (by decide),
      unprefixed (number + 1) 88 (by decide), digits, digitsValue_decimal, Int.negSucc_eq]
    omega

private theorem tonumber_signedDecimal (env : Env) {value : Int} (low : -2 ^ 63 ≤ value) (high : value < 2 ^ 63) :
    tonumber env (signedDecimal value) = some (.ofInt value) := by
  have string : 0 ∉ signedDecimal value := by
    cases value with
    | ofNat number => exact fun member => absurd (decimal_digits member) (by decide)
    | negSucc number =>
      intro member
      rcases List.mem_append.mp member with minus | digit
      · exact absurd minus (by decide)
      · exact absurd (decimal_digits digit) (by decide)
  rw [tonumber, if_neg (by simpa using string), luaStr2int_signedDecimal low high]

private theorem portfwdOpen_ok {env : Env} {before after : World} {listenHost targetHost : Bytes}
    {listenPort targetPort port : UInt16}
    {relayId : UInt32} (opened : portfwdOpen env before listenHost listenPort targetHost targetPort = (after, .ok (relayId, port))) :
    port = env.sockname.getD listenPort ∧ after.engine.relays = before.engine.allocated :: before.engine.relays ∧
      ∃ relay, after.engine.relay before.engine.allocated = some relay ∧ relay.targetPort = targetPort ∧ relay.listenPort = port := by
  simp only [portfwdOpen, Prod.mk.injEq] at opened
  obtain ⟨rfl, answered⟩ := opened
  unfold relayOpen at answered ⊢
  simp only at answered ⊢
  split_ifs at answered ⊢
  obtain ⟨-, rfl⟩ := Prod.mk.inj (Except.ok.inj answered)
  exact ⟨rfl, rfl, _, Function.update_self .., rfl, rfl⟩

private theorem portfwdClose_ok {before after : World} {relayId : UInt32}
    (closed : portfwdClose before relayId = (after, 0)) :
    ∃ ref relay, ref ∈ before.engine.relays ∧ before.engine.relay ref = some relay ∧ relay.relayId = relayId ∧
      after.engine = relayDestroy before.engine ref := by
  have ending := portClose_ending before relayId
  rw [closed] at ending
  generalize same : (after, (0 : Int)) = result at ending
  cases ending with
  | unknown => cases same
  | @destroyed ref relay found =>
    obtain ⟨place, listed, inside⟩ := List.exists_of_findSome?_eq_some found
    obtain ⟨entry, held, chosen⟩ := Option.bind_eq_some_iff.mp inside
    split at chosen
    next sameId =>
      cases chosen
      exact ⟨ref, relay, listed, held, sameId, congrArg World.engine (Prod.mk.inj same).1⟩
    next => cases chosen

/-- The ports a request names, as integers. -/
def ReadsPorts (env : Env) (req : Table) (listen target : Int) : Prop :=
  (tonumber env ((req.get (ascii "listen_port")).getD (ascii "0"))).getD (.ofInt 0) = .ofInt listen ∧
    tonumber env ((req.get (ascii "target_port")).getD []) = some (.ofInt target)

/-- A socket bound to a port has that port; with port 0 the system chooses one. -/
def BindsAsked (env : Env) (asked : UInt16) : Prop := ∀ port, env.sockname = some port → asked ≠ 0 → port = asked

/-- The open has listed a relay with the ports asked for, and the answer names the
relay's ports. -/
def OpensAs (before after : World) (answer : Table) (listen target : Int) : Prop :=
  ∃ ref relay, after.engine.relays = ref :: before.engine.relays ∧ after.engine.relay ref = some relay ∧
    relay.targetPort.toNat = target ∧ (listen ≠ 0 → relay.listenPort.toNat = listen) ∧
    answer.get (ascii "target_port") = some (decimal relay.targetPort.toNat) ∧
    answer.get (ascii "listen_port") = some (decimal relay.listenPort.toNat)

/-- The close has taken down a listed relay with the id asked for. -/
def ClosesAs (before after : World) (asked : Int) : Prop :=
  ∃ ref relay, ref ∈ before.engine.relays ∧ before.engine.relay ref = some relay ∧ relay.relayId.toNat = asked ∧
    after.engine = relayDestroy before.engine ref

def FitsIn (bits : Nat) (value : Int) : Prop := 0 ≤ value ∧ value < 2 ^ bits

section ops
variable {env : Env} {before after : World} {req answer : Table}

private theorem portOpen_ok {listen target : Int} (reads : ReadsPorts env req listen target)
    (opened : opPortOpen env before req = (after, .ok answer)) :
    ∃ relay, after.engine.relays = before.engine.allocated :: before.engine.relays ∧
      after.engine.relay before.engine.allocated = some relay ∧ relay.targetPort = toUInt16 target ∧
      relay.listenPort = env.sockname.getD (toUInt16 listen) ∧
      answer.get (ascii "target_port") = some (signedDecimal target) ∧
      answer.get (ascii "listen_port") = some (decimal relay.listenPort.toNat) := by
  simp only [opPortOpen, reads.1, reads.2, ofInt_integer, ofInt_text] at opened
  split at opened
  next => cases opened
  next world relayId port result =>
    obtain ⟨rfl, same⟩ := Prod.mk.inj opened
    obtain rfl := Except.ok.inj same
    obtain ⟨chosen, listed, relay, held, targets, listens⟩ := portfwdOpen_ok result
    refine ⟨relay, listed, held, targets, listens.trans chosen, by rfl, ?_⟩
    rw [listens]
    rfl

private theorem portOpen_exact_iff {listen target : Int} (reads : ReadsPorts env req listen target)
    (binds : BindsAsked env (toUInt16 listen))
    (opened : opPortOpen env before req = (after, .ok answer)) :
    OpensAs before after answer listen target ↔ FitsIn 16 target ∧ (listen ≠ 0 → FitsIn 16 listen) := by
  obtain ⟨relay, listed, held, targets, listens, namesTarget, namesListen⟩ := portOpen_ok reads opened
  have target16 := toUInt16_toNat target
  have listen16 := toUInt16_toNat listen
  constructor
  · rintro ⟨ref, other, otherListed, otherHeld, sameTarget, sameListen, -⟩
    have small := other.targetPort.toNat_lt
    have smallListen := other.listenPort.toNat_lt
    refine ⟨⟨by omega, by omega⟩, fun asked => ?_⟩
    have same := sameListen asked
    exact ⟨by omega, by omega⟩
  · rintro ⟨fitsTarget, fitsListen⟩
    have exactTarget : (relay.targetPort.toNat : Int) = target := by
      rw [targets, target16]
      exact Int.emod_eq_of_lt fitsTarget.1 fitsTarget.2
    refine ⟨_, relay, listed, held, exactTarget, fun asked => ?_, ?_, namesListen⟩
    · have fits := fitsListen asked
      have exactListen : ((toUInt16 listen).toNat : Int) = listen := by
        rw [listen16]
        exact Int.emod_eq_of_lt fits.1 fits.2
      have nonzero : toUInt16 listen ≠ 0 := by
        intro zero
        rw [zero] at exactListen
        exact asked exactListen.symm
      rw [listens]
      cases bound : env.sockname with
      | none => exact exactListen
      | some port =>
        rw [Option.getD_some, binds port bound nonzero]
        exact exactListen
    · rw [namesTarget, ← exactTarget]
      rfl

private theorem portClose_exact_iff {asked : Int}
    (reads : tonumber env ((req.get (ascii "relay_id")).getD []) = some (.ofInt asked))
    (closed : opPortClose env before req = (after, .ok answer)) : ClosesAs before after asked ↔ FitsIn 32 asked := by
  constructor
  · rintro ⟨ref, relay, -, -, same, -⟩
    have small := relay.relayId.toNat_lt
    exact ⟨by omega, by omega⟩
  · intro fits
    simp only [opPortClose, reads, ofInt_integer] at closed
    split at closed
    next => cases closed
    next done =>
      rw [ne_eq, not_not] at done
      obtain ⟨ref, relay, listed, held, sameId, engine⟩ := portfwdClose_ok (Prod.ext (Prod.mk.inj closed).1 done)
      refine ⟨ref, relay, listed, held, ?_, engine⟩
      rw [sameId, idBits_toNat]
      exact Int.emod_eq_of_lt fits.1 fits.2

end ops

/-- A successful open leaves a relay with the ports asked for, and names them in
its answer, if and only if the target port and a listen port other than zero have
16 bits; a successful close takes down the relay with the id asked for if and
only if the id has 32 bits. -/
theorem relay_numbers_exact_iff {env : Env} {before after : World} {req answer : Table} :
    (∀ listen target, ReadsPorts env req listen target → BindsAsked env (toUInt16 listen) →
      opPortOpen env before req = (after, .ok answer) →
      (OpensAs before after answer listen target ↔ FitsIn 16 target ∧ (listen ≠ 0 → FitsIn 16 listen))) ∧
    ∀ asked, tonumber env ((req.get (ascii "relay_id")).getD []) = some (.ofInt asked) →
      opPortClose env before req = (after, .ok answer) → (ClosesAs before after asked ↔ FitsIn 32 asked) :=
  ⟨fun _ _ => portOpen_exact_iff, fun _ => portClose_exact_iff⟩

private theorem readsPorts_digits (env : Env) {req : Table} {listen target : Int}
    (listen64 : -2 ^ 63 ≤ listen ∧ listen < 2 ^ 63)
    (target64 : -2 ^ 63 ≤ target ∧ target < 2 ^ 63)
    (listens : (req.get (ascii "listen_port")).getD (ascii "0") = signedDecimal listen)
    (targets : req.get (ascii "target_port") = some (signedDecimal target)) : ReadsPorts env req listen target := by
  constructor
  · rw [listens, tonumber_signedDecimal env listen64.1 listen64.2, Option.getD_some]
  · rw [targets, Option.getD_some, tonumber_signedDecimal env target64.1 target64.2]

/-- A system that binds to port 4000. -/
def system : Env := { sockname := some 4000 }

/-- A client asks for a relay to a port, then for the relay with an id to be closed. -/
def openPort (text : Bytes) : OpResult := opPortOpen system Upload.freshSession [(ascii "target_port", text)]

def closePort (text : Bytes) : OpResult := opPortClose system (openPort (ascii "80")).1 [(ascii "relay_id", text)]

def openAnswer (text : Bytes) : Table :=
  [(ascii "status", ascii "ok"), (ascii "relay_id", ascii "1"), (ascii "listen_port", ascii "4000"),
    (ascii "target_host", ascii "127.0.0.1"), (ascii "target_port", text)]

def closeAnswer (text : Bytes) : Table := [(ascii "status", ascii "ok"), (ascii "relay_id", text)]

theorem relay_numbers_exact_iff_one :
    OpensAs Upload.freshSession (openPort (ascii "80")).1 (openAnswer (ascii "80")) 0 80 ∧
      ClosesAs (openPort (ascii "80")).1 (closePort (ascii "1")).1 1 := by
  have reads : ReadsPorts system [(ascii "target_port", ascii "80")] 0 80 :=
    readsPorts_digits system ⟨by decide, by decide⟩ ⟨by decide, by decide⟩ (by decide) (by decide)
  have named : tonumber system ((Table.get [(ascii "relay_id", ascii "1")] (ascii "relay_id")).getD []) = some (.ofInt 1) :=
    @tonumber_signedDecimal system 1 (by decide) (by decide)
  have opened : opPortOpen system Upload.freshSession [(ascii "target_port", ascii "80")] =
      ((openPort (ascii "80")).1, .ok (openAnswer (ascii "80"))) := rfl
  have closed : opPortClose system (openPort (ascii "80")).1 [(ascii "relay_id", ascii "1")] =
      ((closePort (ascii "1")).1, .ok (closeAnswer (ascii "1"))) := rfl
  exact ⟨(relay_numbers_exact_iff.1 0 80 reads (fun _ _ nonzero => absurd rfl nonzero) opened).mpr
      ⟨⟨by decide, by decide⟩, fun asked => absurd rfl asked⟩,
    (relay_numbers_exact_iff.2 1 named closed).mpr ⟨by decide, by decide⟩⟩

/-- 2^16 + 80 opens a relay to port 80, and 2^32 + 1 closes the relay 1. -/
theorem larger_numbers_aliased :
    (openPort (ascii "65616")).2 = .ok (openAnswer (ascii "65616")) ∧
    (((openPort (ascii "65616")).1.engine.relay 0).map Relay.targetPort) = some 80 ∧
    ¬ OpensAs Upload.freshSession (openPort (ascii "65616")).1 (openAnswer (ascii "65616")) 0 65616 ∧
    (openPort (ascii "80")).1.engine.relays = [0] ∧
    (closePort (ascii "4294967297")).2 = .ok (closeAnswer (ascii "4294967297")) ∧
    (closePort (ascii "4294967297")).1.engine.relays = [] ∧
    ¬ ClosesAs (openPort (ascii "80")).1 (closePort (ascii "4294967297")).1 4294967297 := by
  refine ⟨rfl, rfl, ?_, rfl, rfl, rfl, ?_⟩
  · rintro ⟨ref, relay, -, -, same, -⟩
    have small := relay.targetPort.toNat_lt
    omega
  · rintro ⟨ref, relay, -, -, same, -⟩
    have small := relay.relayId.toNat_lt
    omega

end Luagent.Proofs.RelayNumbers
