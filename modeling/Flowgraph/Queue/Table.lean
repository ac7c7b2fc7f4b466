import Flowgraph.Queue.Job
import Flowgraph.Store.JobTable

/-! The queue of delayed jobs that is a table. -/

namespace Flowgraph.JobTable

def answerFault (id : JobId) (fault : DatabaseFault) : QueueFault :=
  if fault = .rowNotFound then .jobNotFound id else .database fault

/-- The time before which a claim must have been made to be over. A lease that is too long to be
counted back goes back to the first time of the calendar. -/
def abandonedBefore (now : Instant) (lease : Duration) : Instant :=
  if lease ≤ Duration.longestShift then (now.shift? (-lease)).getD .earliest else .earliest

def operations [JobServer] : QueueOperations JobTable where
  enqueue delay payload := do
    let runAt ← dueAfter (← get).now delay
    return (← Act.mapFault .database (insert payload runAt)).id
  claim lease := do
    let now := (← get).now
    let row ← Act.mapFault .database (fetchDue now (abandonedBefore now lease))
    return row.map (·.job)
  complete id := Act.mapFault (answerFault id) (complete id)
  retry id error backoff := do
    let runAt ← dueAfter (← get).now backoff
    Act.mapFault (answerFault id) (postpone id error runAt)
  deadLetter id error := Act.mapFault (answerFault id) (deadLetter id error)

end Flowgraph.JobTable
