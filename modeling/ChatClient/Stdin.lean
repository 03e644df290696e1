import ChatClient.Lib.Records
import ChatClient.ListenerSpec

/-!
# Reading lines from the pipe

`listenStdin` cuts what one `read` returns into lines and starts afresh on the next
(`listenStdin_eq`).  The user's input is handled line by line exactly when every `read` ends at the end
of a line (`stdin_lines_iff`).
-/

namespace ChatClient

open Outcome

/-- What `listenStdin` does with a line. -/
def enterLine (mb : MailBox) (line : Bytes) : Except Error MailBox := do
  let (written, mail, mb) ← mb.writeMailLine line {}
  if written then return mb.addMail mail
  else .error (.runtimeError (chars "Failed to write mail from stdin"))

/-- The lines that `listenStdin` finds in what a `read` returned. -/
def stdinLines (data : Bytes) : List Bytes := (Records.complete lf [] data).filter (· ≠ [])

/-- What `StdinListener` writes to the pipe for some lines. -/
def stdinStream (lines : List Bytes) : Bytes := Records.join lf lines

theorem readLines_eq (mb : MailBox) (line data : Bytes) :
    readLines mb line data =
      ((Records.complete lf line data).filter (· ≠ [])).foldlM enterLine mb := by
  induction data generalizing mb line with
  | nil => rfl
  | cons c rest ih =>
    unfold readLines Records.complete
    by_cases hc : c = lf
    · by_cases hline : line = []
      · simp only [if_pos hc, hline, ne_eq, not_true_eq_false, if_false, ih]
        rw [List.filter_cons_of_neg (by simp)]
      · simp only [if_pos hc, ne_eq, hline, not_false_eq_true, if_true]
        rw [List.filter_cons_of_pos (by simpa using hline), List.foldlM_cons, enterLine]
        rcases mb.writeMailLine line {} with e | ⟨_ | _, mail, mb'⟩
        · rfl
        · rfl
        · exact ih ..
    · simp only [if_neg hc, ih]

theorem listenStdin_eq (mb : MailBox) {data : Bytes} (hd : data ≠ []) (hlen : data.length ≤ 1023) :
    listenStdin mb (some data) = (stdinLines data).foldlM enterLine mb := by
  simp only [listenStdin, if_neg hd, List.take_of_length_le hlen]
  exact readLines_eq mb [] data

theorem foldlM_listenStdin (mb : MailBox) {reads : List Bytes}
    (hr : ∀ data ∈ reads, data ≠ [] ∧ data.length ≤ 1023) :
    reads.foldlM (fun mb data => listenStdin mb (some data)) mb =
      (reads.flatMap stdinLines).foldlM enterLine mb := by
  induction reads generalizing mb with
  | nil => rfl
  | cons data reads ih =>
    obtain ⟨hd, hlen⟩ := hr data List.mem_cons_self
    rw [List.foldlM_cons, listenStdin_eq mb hd hlen, List.flatMap_cons, List.foldlM_append]
    congr 1
    funext mb'
    exact ih mb' fun data hmem => hr data (List.mem_cons_of_mem _ hmem)

/-- For every list of lines and every way of cutting what `StdinListener` writes for them into reads:
the lines that `listenStdin` passes to `writeMail` are the non-empty lines, in order, and the mailbox
is what `writeMail` and `addMail` make of these, iff every read ends with a line feed. -/
theorem stdin_lines_iff {lines reads : List Bytes} (hl : ∀ line ∈ lines, lf ∉ line)
    (hr : ∀ data ∈ reads, data ≠ [] ∧ data.length ≤ 1023)
    (hcut : reads.flatten = stdinStream lines) :
    (reads.flatMap stdinLines = lines.filter (· ≠ []) ∧
      ∀ mb, reads.foldlM (fun mb data => listenStdin mb (some data)) mb =
        (lines.filter (· ≠ [])).foldlM enterLine mb) ↔
      ∀ data ∈ reads, data.getLast? = some lf := by
  rw [← Records.flatMap_complete_eq_iff hl (fun data hd => (hr data hd).1) hcut]
  constructor
  · intro h
    exact h.1
  · intro h
    refine ⟨h, fun mb => ?_⟩
    rw [foldlM_listenStdin mb hr]
    exact congrArg (List.foldlM enterLine mb) h

/-- Two lines in one read. -/
theorem stdin_lines_iff_two :
    ([stdinStream [chars "/join a", chars "hi"]].flatMap stdinLines =
        [chars "/join a", chars "hi"].filter (· ≠ []) ∧
      ∀ mb, [stdinStream [chars "/join a", chars "hi"]].foldlM
          (fun mb data => listenStdin mb (some data)) mb =
        ([chars "/join a", chars "hi"].filter (· ≠ [])).foldlM enterLine mb) ↔
      ∀ data ∈ [stdinStream [chars "/join a", chars "hi"]], data.getLast? = some lf :=
  stdin_lines_iff (by decide) (by decide) rfl

/-- A line of 1100 characters does not fit in a read; what the next read returns of it is taken for
the whole line. -/
theorem stdin_line_cut :
    let line : Bytes := List.replicate 1100 97
    let reads : List Bytes := [List.replicate 1023 97, List.replicate 77 97 ++ [lf]]
    lf ∉ line ∧ (∀ data ∈ reads, data ≠ [] ∧ data.length ≤ 1023) ∧
      reads.flatten = stdinStream [line] ∧
      ¬ ∀ mb, reads.foldlM (fun mb data => listenStdin mb (some data)) mb =
        ([line].filter (· ≠ [])).foldlM enterLine mb := by
  intro line reads
  refine ⟨by decide +kernel, by decide +kernel, by decide +kernel, fun h => ?_⟩
  have hlength := congrArg
    (fun res : Except Error MailBox => res.toOption.map fun mb =>
      mb.incomingMails.map fun mail => mail.data.strings.map List.length)
    (h { deliveryService := .tcp })
  revert hlength
  decide +kernel

end ChatClient
