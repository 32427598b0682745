import SimdProfile.Proofs.Request.Effect
import SimdProfile.Proofs.Roster.Lifecycle

/-!
# Requests and the users of the counters

Every request leaves the counters with as many users as there are profiles. Most of what requests do to
the roster changes no thread, and the rest is made of sections: to enlist a thread is a look-up and maybe a
claim, and to end a profile dismisses it.
-/

namespace SimdProfile

namespace Roster

variable {r after : Roster} {t : ThreadId}

theorem Attended.congr (h : r.Attended) (threads : after.threads = r.threads)
    (users : after.service.users = r.service.users)
    (programmed : after.service.programmed = r.service.programmed)
    (released : after.service.released = r.service.released) : after.Attended := by
  have size : after.size = r.size := by rw [size_eq, size_eq, threads]
  refine ⟨threads ▸ h.distinct, ?_, ?_⟩
  · rw [users, size, h.users]
  · rw [programmed, released, size, h.programmed]

theorem threads_amend (r : Roster) (t : ThreadId) (f : ThreadProfile → ThreadProfile) :
    (r.amend t f).threads = r.threads := by
  simp only [threads, amend, List.map_map]
  refine List.map_congr_left fun entry _ => ?_
  rw [Function.comp_apply]
  split <;> rfl

theorem Attended.amend (h : r.Attended) (t : ThreadId) (f : ThreadProfile → ThreadProfile) :
    (r.amend t f).Attended :=
  h.congr (threads_amend r t f) rfl rfl rfl

theorem Attended.dismiss (h : r.Attended) (t : ThreadId) : (r.dismiss t).1.Attended :=
  (Attended.step (s := ⟨r, fun _ => none⟩) h (.dismiss t)).1

/-- To enlist a thread is a look-up and maybe a claim, and both leave the counters attended. -/
theorem Attended.enlist (h : r.Attended) (t : ThreadId) (d : Declaration) :
    (r.enlist t d).1.Attended := by
  let s : Shared := ⟨r, fun _ => none⟩
  have sought : (s.step (.seek 0 t d)).1.roster.Attended := (Attended.step (s := s) h _).1
  have claimed := (Attended.step sought (.claim 0)).1
  have free : s.claiming 0 = none := rfl
  obtain ⟨-, cells, service, -⟩ := enlist_eq_sections free t d
  have same {last : Roster} (attended : last.Attended) (cells : (r.enlist t d).1.cells = last.cells)
      (service : (r.enlist t d).1.service = last.service) : (r.enlist t d).1.Attended := by
    apply attended.congr
    · rw [threads, threads, cells]
    all_goals rw [service]
  by_cases found : (s.step (.seek 0 t d)).2.enlisted?.isSome = true
  · rw [if_pos found] at cells service
    exact same sought cells service
  · rw [if_neg found] at cells service
    exact same claimed cells service

end Roster

namespace Profiler

variable {p : Profiler}

theorem attended_snapshotIf (h : p.roster.Attended) (wanted : Bool) :
    (p.snapshotIf wanted).1.roster.Attended := by
  rw [snapshotIf_eq]
  exact h.congr rfl rfl rfl rfl

theorem attended_putProfile (h : p.roster.Attended) (t : ThreadId) (c : ThreadProfile) :
    (p.putProfile t c).roster.Attended :=
  h.amend t fun _ => c

theorem attended_enter (h : p.roster.Attended) (t : ThreadId) (c : ThreadProfile) (kind : RegionKind)
    (startLine endLine task : Int32) (mask : UInt64) :
    (p.enter t c kind startLine endLine task mask).1.roster.Attended := by
  rw [enter_eq]
  exact attended_putProfile (attended_snapshotIf h _) t _

theorem attended_start (h : p.roster.Attended) (t : ThreadId) (origin : String)
    (kindCode startLine endLine task : Int32) (mask : UInt64) :
    (p.start t origin kindCode startLine endLine task mask).profiler.roster.Attended := by
  unfold start
  split
  · exact h
  · split
    · next kind _ _ => exact h.amend t (·.suppress kind)
    · have enlisted := h.enlist t ⟨origin, startLine, p.laneWidth, p.flags⟩
      dsimp only
      split
      · exact enlisted
      · exact enlisted
      · exact attended_enter (p := { p with roster := _ }) enlisted t _ _ _ _ _ _

theorem attended_observe (h : p.roster.Attended) (operation : Operation) (t : ThreadId) (note : String)
    (line : Int32) (mask : UInt64) (kindCode : Int32) :
    (p.observe operation t note line mask kindCode).profiler.roster.Attended := by
  unfold observe
  split
  · exact h
  · split
    · exact h
    · split
      · exact h
      · split
        · exact h
        · exact attended_putProfile h t _

/-- Whatever a call does, there are as many users of the counters as profiles. -/
theorem attended_perform (h : p.roster.Attended) (t : ThreadId) (call : Call) :
    (p.perform t call).profiler.roster.Attended := by
  cases call with
  | declare origin line width flags =>
    simp only [perform, Reply.map, declare]
    split
    · exact h
    · exact h.enlist t _
  | start origin kindCode startLine endLine task mask =>
    exact attended_start h t origin kindCode startLine endLine task mask
  | stop kindCode line =>
    simp only [perform, Reply.map, stop]
    split
    · exact h
    · split
      · exact attended_snapshotIf h _
      · exact attended_putProfile (attended_snapshotIf h _) t _
  | iteration note line mask kindCode => exact attended_observe h .iteration t note line mask kindCode
  | branch note line mask kindCode => exact attended_observe h .branch t note line mask kindCode
  | finish =>
    simp only [perform, Reply.map, finish]
    split
    · exact h
    · exact h.dismiss t

theorem attended_serve (h : p.roster.Attended) (t : ThreadId) (r : Request) :
    (p.serve t r).profiler.roster.Attended := by
  unfold serve
  split
  · exact attended_perform h t _
  · exact h

theorem attended_serveAll (h : p.roster.Attended) (w : List (ThreadId × Request)) :
    (p.serveAll w).roster.Attended := by
  induction w generalizing p with
  | nil => exact h
  | cons x w ih => exact ih (attended_serve h x.1 x.2)

theorem attended_reached (s : Settings) (source : Counters.Source) (begun : Moment) (disk : FileTree)
    (w : List (ThreadId × Request)) : ((create s source begun disk).serveAll w).roster.Attended :=
  attended_serveAll (Roster.attended_create s.libraryOrigin source) w

end Profiler

end SimdProfile
