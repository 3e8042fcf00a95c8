/-
# Where entries come from

What a part of a launch logs carries the names of the parts of the program that were at work.  So the
log tells what was not done: without an entry of the server none was started, and without one of the
client nobody was asked.
-/
import LaunchGuard.Proofs.Channel.Lines
import LaunchGuard.Startup.Machine

namespace LaunchGuard

namespace Logged

variable {α β : Type} {parts parts' : List Source}

lemma pure_bind_eq (a : α) (f : α → Logged β) : (Pure.pure a >>= f) = f a := rfl

lemma bind_eq_mk (x : Logged α) (f : α → Logged β) :
    (x >>= f) = ⟨(f x.value).value, x.log ++ (f x.value).log⟩ := rfl

/-- All entries come from the given parts of the program. -/
def From (parts : List Source) (x : Logged α) : Prop := ∀ e ∈ x.log, e.source ∈ parts

namespace From

lemma pure (a : α) : From parts (Pure.pure a : Logged α) := nofun

lemma write {source : Source} (h : source ∈ parts) (level : Level) (text : String) :
    From parts (Logged.write level source text) := by
  intro e he
  rw [List.mem_singleton.1 he]
  exact h

lemma bind {x : Logged α} {f : α → Logged β} (h : From parts x)
    (hf : ∀ a, From parts (f a)) : From parts (x >>= f) := by
  intro e he
  rcases List.mem_append.1 he with he | he
  · exact h e he
  · exact hf x.value e he

lemma mono {x : Logged α} (h : From parts x) (hsub : parts ⊆ parts') : From parts' x :=
  fun e he => hsub (h e he)

end From

end Logged

open Logged

/-! ### The channel -/

lemma QueryLine.source_eq {addr : String} {events : List ReadEvent} {owner : Owner} {e : Entry}
    (h : QueryLine addr events owner e) : e.source = .client := by
  cases h <;> rfl

section Channel

variable {parts : List Source}

/-- Handling a duplicate launch adds entries of its own and of the host to those of its calls. -/
lemma from_handleDuplicate {user : Logged (Option String)} {query : Logged Owner}
    {notify : Logged NotifyOutcome} (huser : user.From parts) (hquery : query.From parts)
    (hnotify : notify.From parts) (hduplicate : Source.duplicate ∈ parts)
    (hhost : Source.host ∈ parts) : (handleDuplicate user query notify).From parts := by
  intro e he
  rw [log_handleDuplicate] at he
  simp only [List.mem_append, List.mem_singleton] at he
  rcases he with ((((he | he) | he) | he) | he) | he
  · exact huser e he
  · rw [he]
    exact hduplicate
  · exact hquery e he
  · rw [he, DuplicateReport.verdict]
    split
    · exact hhost
    · exact hduplicate
  · exact hnotify e he
  · split at he
    · cases he
    · rw [List.mem_singleton.1 he]
      exact hduplicate

/-- Over the channel the calls are those of a client. -/
lemma from_duplicateOver {user : Logged (Option String)} (huser : user.From parts)
    (hparts : [.duplicate, .client, .host] ⊆ parts) (addr : String) (s : Settings)
    (queryPeer notifyPeer : Peer) :
    (duplicateOver user addr s queryPeer notifyPeer).From parts := by
  have hclient : Source.client ∈ parts := hparts (by simp)
  have hhandle : (handleDuplicate user
      ⟨(Client.query addr s.queryRetry queryPeer).value.answer,
        (Client.query addr s.queryRetry queryPeer).log⟩
      ⟨(Client.notify addr s.notifyRetry notifyPeer).value.answer,
        (Client.notify addr s.notifyRetry notifyPeer).log⟩).From parts := by
    refine from_handleDuplicate huser (fun e he => ?_) (fun e he => ?_) (hparts (by simp))
      (hparts (by simp))
    · rw [(Client.queryLine_of_mem_log he).source_eq]
      exact hclient
    · rcases Client.mem_log_notify he with ⟨i, cause, rfl⟩ | ⟨i, f, rfl⟩ | ⟨k, rfl⟩ | ⟨n, rfl⟩ <;>
        exact hclient
  exact hhandle.bind fun _ => .pure _

end Channel

/-! ### The start of a launch -/

namespace Machine

lemma from_currentUser (m : Machine) (e : Environment) :
    (m.currentUser e).From [.identity] := by
  rw [currentUser]
  split
  · exact .pure _
  · exact .bind (.write (by decide) _ _) fun _ => .pure _

lemma from_announce (t : Tree) (e : Environment) (log : Option Path) (p : Preparation) :
    (announce t e log p).From [.runner] := by
  have hwrite : ∀ level text, (Logged.write level .runner text).From [.runner] :=
    fun level text => .write (by decide) level text
  rw [announce]
  refine .bind (hwrite _ _) fun _ => ?_
  -- what is optional is there or not, and is followed by the rest in either case
  cases log <;> cases e.settingsFolder? <;> cases p.fault <;> cases p.overridden <;>
    repeat' first | exact hwrite _ _ | exact .pure _ | refine .bind (hwrite _ _) fun _ => ?_

lemma from_firstMatch (s : Signals) (layers : List Layer) :
    (Layer.firstMatch s layers).From [.mode] := by
  induction layers with
  | nil => exact .bind (.write (by decide) _ _) fun _ => .pure _
  | cons l layers ih =>
    rw [Layer.firstMatch]
    split
    · exact .bind (.write (by decide) _ _) fun _ => .pure _
    · exact .bind (.write (by decide) _ _) fun _ => ih

lemma from_decideMode (e : Environment) (args : List String) :
    (decideMode e args).From [.runner, .mode] := by
  have hdetect : (Mode.detect ⟨none, args, e.text? serviceVariable⟩).From [.runner, .mode] :=
    .bind ((from_firstMatch _ _).mono (by simp)) fun _ => .pure _
  exact .bind (.write (by decide) _ _) fun _ =>
    hdetect.bind fun _ => .bind (.write (by decide) _ _) fun _ => .pure _

lemma from_endDuplicate (m : Machine) (e : Environment) (s : Settings) :
    (m.endDuplicate e s).From [.identity, .duplicate, .client, .host, .runner] := by
  have hover := from_duplicateOver ((m.from_currentUser e).mono (by simp) :
      (m.currentUser e).From [.identity, .duplicate, .client, .host, .runner]) (by simp)
    (address s.port.toNat) s (m.peer s.port.toNat .ownerUser) (m.peer s.port.toNat .showWindow)
  exact hover.bind fun _ => .bind (.write (by decide) _ _) fun _ => .pure _

end Machine

end LaunchGuard
