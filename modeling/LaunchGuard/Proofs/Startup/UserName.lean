/-
# The user that the variables name

Several variables may name the user, and the first that does so counts: one that is not set, is no
text or is blank is passed over.  What is taken of its value is the word between the blanks at its
ends.

Such a word does not change on its way over the wire, if it has room there.  The reader drops blanks
and NUL characters from the end of a name, but the word does not end in a blank, and no variable can
hold a NUL character.  So two launches that take the same user from their variables know each other
for launches of the same user.
-/
import LaunchGuard.Proofs.Channel.Duplicate
import LaunchGuard.Proofs.Text.InvalidParts
import LaunchGuard.Startup.Environment

namespace LaunchGuard.Environment

open Text

variable {e : Environment} {name value u : String}

/-- The variable is set to the bytes of a text. -/
def Holds (e : Environment) (name value : String) : Prop :=
  e.vars.lookup name = some (Utf8.bytesOf value)

/-- The variable is set to a text that is not blank. -/
def Names (e : Environment) (name value : String) : Prop :=
  e.Holds name value ∧ ∃ c ∈ value.toList, isBlank c = false

/-! ### The value of a variable -/

lemma text?_eq_some_iff : e.text? name = some value ↔ e.Holds name value := by
  rw [text?, Option.map_eq_some_iff, Holds, Utf8.bytesOf]
  simp only [Option.bind_eq_some_iff, Utf8.decode?_eq_some_iff]
  constructor
  · rintro ⟨cs, ⟨bytes, hbytes, rfl⟩, rfl⟩
    rw [hbytes, String.toList_ofList]
  · intro hbytes
    exact ⟨value.toList, ⟨_, hbytes, rfl⟩, String.ofList_toList⟩

/-- The user that one variable names. -/
def userOf? (e : Environment) (name : String) : Option String :=
  (e.text? name).bind fun v =>
    let v := trim v.toList
    if v = [] then none else some (String.ofList v)

lemma user?_eq_findSome? (e : Environment) : e.user? = userVariables.findSome? e.userOf? := rfl

/-- A variable names its user by the word between the blanks of its value. -/
lemma userOf?_eq_some_iff :
    e.userOf? name = some u ↔ ∃ value, e.Names name value ∧ Trimmed value.toList u.toList := by
  rw [userOf?, Option.bind_eq_some_iff]
  refine exists_congr fun value => ?_
  have hblank : trim value.toList ≠ [] ↔ ∃ c ∈ value.toList, isBlank c = false := by
    rw [Ne, trim_eq_nil_iff]
    simp
  rw [text?_eq_some_iff, Names, trimmed_iff, ← hblank, and_assoc]
  refine and_congr_right fun _ => ?_
  by_cases hnil : trim value.toList = []
  · simp [hnil]
  · simp only [hnil, if_false, Option.some.injEq, ne_eq, not_false_eq_true, true_and]
    rw [← String.toList_inj, String.toList_ofList, eq_comm]

lemma userOf?_eq_none_iff : e.userOf? name = none ↔ ∀ value, ¬e.Names name value := by
  rw [Option.eq_none_iff_forall_ne_some]
  constructor
  · intro h value hnames
    refine h (String.ofList (trim value.toList)) (userOf?_eq_some_iff.2 ⟨value, hnames, ?_⟩)
    rw [String.toList_ofList, trimmed_iff]
  · intro h u hu
    obtain ⟨value, hnames, -⟩ := userOf?_eq_some_iff.1 hu
    exact h value hnames

/-! ### The first variable that names a user -/

lemma user?_eq_some_iff : e.user? = some u ↔ ∃ before name after value,
    userVariables = before ++ name :: after ∧ (∀ n ∈ before, ∀ v, ¬e.Names n v) ∧
      e.Names name value ∧ Trimmed value.toList u.toList := by
  rw [user?_eq_findSome?, List.findSome?_eq_some_iff]
  simp only [userOf?_eq_none_iff, userOf?_eq_some_iff]
  constructor
  · rintro ⟨before, name, after, hall, ⟨value, hnames, htrimmed⟩, hbefore⟩
    exact ⟨before, name, after, value, hall, hbefore, hnames, htrimmed⟩
  · rintro ⟨before, name, after, value, hall, hbefore, hnames, htrimmed⟩
    exact ⟨before, name, after, hall, ⟨value, hnames, htrimmed⟩, hbefore⟩

lemma user?_eq_none_iff :
    e.user? = none ↔ ∀ name ∈ userVariables, ∀ value, ¬e.Names name value := by
  rw [user?_eq_findSome?, List.findSome?_eq_none_iff]
  simp only [userOf?_eq_none_iff]

/-- The user has a name, and it neither begins nor ends with a blank. -/
lemma user_is_trimmed (h : e.user? = some u) : u ≠ "" ∧
    (∀ c, u.toList.head? = some c → isBlank c = false) ∧
    ∀ c, u.toList.getLast? = some c → isBlank c = false := by
  obtain ⟨before, name, after, value, -, -, ⟨-, c, hc, hblank⟩, htrimmed⟩ := user?_eq_some_iff.1 h
  have hword := trimmed_iff.1 htrimmed
  obtain ⟨front, tail, hvalue, hfront, htail, hhead, hlast⟩ := htrimmed
  refine ⟨?_, hhead, hlast⟩
  rintro rfl
  -- without a word, all of the value would be blank
  have hall := trim_eq_nil_iff.1 hword.symm c hc
  exact Bool.false_ne_true (hblank.symm.trans hall)

/-! ### On the wire -/

/-- Variables without NUL characters name a user without them. -/
lemma nul_notMem_of_user? (h : e.user? = some u)
    (hnul : ∀ name ∈ userVariables, ∀ value, e.Holds name value → '\x00' ∉ value.toList) :
    '\x00' ∉ u.toList := by
  obtain ⟨before, name, after, value, hall, -, ⟨hholds, -⟩, htrimmed⟩ := user?_eq_some_iff.1 h
  obtain ⟨front, tail, hvalue, -⟩ := htrimmed
  intro hmem
  refine hnul name (by simp [hall]) value hholds ?_
  rw [hvalue]
  exact List.mem_append_left _ (List.mem_append_right _ hmem)

/-- A trimmed name without NUL characters is its own canonical form, if it has room. -/
lemma decode_encode_user (h : e.user? = some u) (hnul : '\x00' ∉ u.toList)
    (hroom : u.utf8ByteSize ≤ Reply.nameRoom) :
    Reply.decode (Reply.encode (.owner u)) = .ok (.owner u) := by
  obtain ⟨hne, -, hlast⟩ := user_is_trimmed h
  refine (Reply.decode_encode_owner_eq_iff u u).2 ⟨hne, ?_⟩
  refine (Reply.canonical_eq_toList_iff u).2 ⟨hroom, fun c hc => ?_⟩
  have hc₀ : c ≠ '\x00' := by
    rintro rfl
    exact hnul (List.mem_of_getLast? hc)
  simp [isPadding, hc₀, hlast c hc]

end LaunchGuard.Environment

namespace LaunchGuard

/-- An owner whose name arrives unchanged in a reply is known to everyone who is answered. -/
lemma Client.answer_query_of_round_trip {u : String}
    (hround : Reply.decode (Reply.encode (.owner u)) = .ok (.owner u)) (addr : String)
    {policy : RetryPolicy} {refusals : Nat → Option Fault} {pieces : List (List UInt8)}
    {ending : List ReadEvent} (hreach : Attempt.Reaches policy refusals)
    (hne : ∀ c ∈ pieces, c ≠ [])
    (hreply : pieces.flatten =
      (Server.serve (some u) (.payload Request.ownerUser.wire)).value.reply)
    (hend : EndsReply pieces.flatten ending) :
    (Client.query addr policy
      { refusals, reply := pieces.map .data ++ ending }).value.answer = .known u := by
  have hfit : pieces.flatten.length ≤ messageLimit := by
    rw [hreply]
    exact Server.length_reply_le _ _
  have hbytes : pieces.flatten = Reply.encode (.owner u) := by
    rw [hreply, Server.reply_serve, if_pos (Server.asks_wire .ownerUser), Option.elim_some]
  rw [Client.query_of_reaches addr refusals _ hreach, Client.exchange_pieces hne hfit hend, hbytes,
    hround]
  rfl

/-- **The user that the variables name.**  Of the three variables, in their order, the first that is
set to a text with more than blanks names the user, by what stands between the blanks at its ends;
whatever holds before it does not matter, and there is no user exactly if no variable names one.
The name is not empty, and it neither begins nor ends with a blank.  If no variable holds a NUL
character and the name has room in a reply, then it arrives there unchanged.  So a duplicate launch
that takes the same name from its own variables does not warn, whatever pieces the reply of the
running instance comes in. -/
theorem Environment.user_survives_exchange (e : Environment) :
    (∀ u, e.user? = some u ↔ ∃ before name after value,
      ["USERNAME", "USER", "LOGNAME"] = before ++ name :: after ∧
        (∀ n ∈ before, ∀ v, ¬e.Names n v) ∧ e.Names name value ∧
        Text.Trimmed value.toList u.toList) ∧
    (e.user? = none ↔ ∀ name ∈ ["USERNAME", "USER", "LOGNAME"], ∀ value, ¬e.Names name value) ∧
    (∀ u, e.user? = some u → u ≠ "" ∧
      (∀ c, u.toList.head? = some c → Text.isBlank c = false) ∧
      ∀ c, u.toList.getLast? = some c → Text.isBlank c = false) ∧
    ((∀ name ∈ ["USERNAME", "USER", "LOGNAME"], ∀ value,
        e.Holds name value → '\x00' ∉ value.toList) →
      ∀ u, e.user? = some u → u.utf8ByteSize ≤ 246 →
        Reply.decode (Reply.encode (.owner u)) = .ok (.owner u) ∧
        ∀ (other : Environment) (user : Logged (Option String)) (addr : String) (s : Settings)
          (refusals : Nat → Option Fault) (pieces : List (List UInt8)) (ending : List ReadEvent)
          (notifyPeer : Peer), other.user? = some u → user.value = other.user? →
          Attempt.Reaches s.queryRetry refusals → (∀ c ∈ pieces, c ≠ []) →
          pieces.flatten =
            (Server.serve e.user? (.payload Request.ownerUser.wire)).value.reply →
          EndsReply pieces.flatten ending →
          (duplicateOver user addr s { refusals, reply := pieces.map .data ++ ending }
            notifyPeer).value.run.report.warned = false) := by
  refine ⟨fun u => user?_eq_some_iff, user?_eq_none_iff, fun u => user_is_trimmed, ?_⟩
  intro hnul u hu hroom
  have hround := decode_encode_user hu (nul_notMem_of_user? hu hnul) hroom
  refine ⟨hround, ?_⟩
  intro other user addr s refusals pieces ending notifyPeer hother huser hreach hne hreply hend
  rw [hu] at hreply
  have hanswer := Client.answer_query_of_round_trip hround addr hreach hne hreply hend
  rw [run_duplicateOver, report_handleDuplicate, Owner.deservesWarning_eq_false_iff]
  exact ⟨u, hanswer, huser.trans hother⟩

/-- A blank value and one that is no text come before the name, which stands between blanks; the
other launch has the name in its first variable, and the reply comes in two pieces. -/
theorem Environment.user_survives_exchange_behind_unreadable :
    let e : Environment :=
      { vars := [("USERNAME", [0x20, 0x09]), ("USER", [0xff, 0x41]),
          ("LOGNAME", Text.Utf8.bytesOf " José\u3000")] }
    let other : Environment := { vars := [("USERNAME", Text.Utf8.bytesOf "José")] }
    let reply := (Server.serve e.user? (.payload Request.ownerUser.wire)).value.reply
    let pieces := [reply.take 13, reply.drop 13]
    e.user? = some "José" ∧
    (duplicateOver (pure other.user?) (address 45931) {}
      { refusals := fun _ => none, reply := pieces.map .data ++ [.data []] }
      { refusals := fun _ => none }).value.run.report.warned = false := by
  intro e other reply pieces
  have huser : e.user? = some "José" := by decide
  have htexts : ["USERNAME", "USER", "LOGNAME"].map e.text? =
      [some " \t", none, some " José\u3000"] := by decide
  have hnul : ∀ name ∈ ["USERNAME", "USER", "LOGNAME"], ∀ value,
      e.Holds name value → '\x00' ∉ value.toList := by
    intro name hname value hholds
    have hvalue : some value ∈ ["USERNAME", "USER", "LOGNAME"].map e.text? :=
      List.mem_map.2 ⟨name, hname, text?_eq_some_iff.2 hholds⟩
    rw [htexts] at hvalue
    simp only [List.mem_cons, Option.some.injEq, reduceCtorEq, false_or, List.not_mem_nil,
      or_false] at hvalue
    rcases hvalue with rfl | rfl <;> decide
  obtain ⟨-, -, -, hexchange⟩ := user_survives_exchange e
  obtain ⟨-, hwithheld⟩ := hexchange hnul "José" huser (by decide)
  have hother : other.user? = some "José" := by decide
  have hreach : Attempt.Reaches RetryPolicy.queryDefault fun _ => none :=
    ⟨1, by decide, by decide, rfl⟩
  have hpieces : ∀ c ∈ pieces, c ≠ [] := by decide
  have hreply : pieces.flatten = reply := by decide
  refine ⟨huser, ?_⟩
  exact hwithheld other (pure other.user?) (address 45931) {} (fun _ => none) pieces [.data []]
    { refusals := fun _ => none } hother rfl hreach hpieces hreply rfl

end LaunchGuard
