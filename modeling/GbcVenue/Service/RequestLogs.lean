import GbcVenue.Interleaving.Paths
import GbcVenue.Service.Request

/-!
# The logs of the booking requests

All the ways in which `CreateBooking`, `UpdateBooking` and `CancelBooking` can go, each with the log of
its actions and its reply. The programs are taken apart here, once; what holds of every log is then a case
analysis.
-/

namespace GbcVenue

open Interleaving

namespace BookingService

theorem path_withLock {α : Type} {m : MutexRef} {body : Go α} {l : Log Res} {a : α}
    (h : (withLock m body).Path l a) :
    ∃ l', l = [⟨.lock m, ()⟩] ++ (l' ++ [⟨.unlock m, ()⟩]) ∧ body.Path l' a := by
  simp only [withLock, Prog.call_bind] at h
  obtain ⟨_, l₁, rfl, hk⟩ := Prog.path_act.1 h
  obtain ⟨l₂, l₃, b, rfl, hb, hend⟩ := Prog.path_bind.1 hk
  obtain ⟨_, l₄, rfl, hret⟩ := Prog.path_act.1 hend
  obtain ⟨rfl, rfl⟩ := Prog.path_ret.1 hret
  exact ⟨l₂, rfl, hb⟩

/-! ## Creations -/

/-- From the overlap check of a creation on. -/
inductive StoreLog (checkIn checkOut : Int) (b : Booking) : Log Res → Reply → Prop
  | unchecked {e : GoError} : StoreLog checkIn checkOut b
      [⟨.hasOverlap b.tableID checkIn checkOut "", .error e⟩] (.error (.wrap "overlap check" e))
  | overlap : StoreLog checkIn checkOut b
      [⟨.hasOverlap b.tableID checkIn checkOut "", .ok true⟩] (.error (alreadyBooked b.tableID))
  | failed {e : GoError} : StoreLog checkIn checkOut b
      [⟨.hasOverlap b.tableID checkIn checkOut "", .ok false⟩, ⟨.create b, .error e⟩]
      (.error (.wrap "create booking" e))
  | stored {id : String} {l : Log Res} (hsync : (syncCreated (b.withID id)).Path l ()) :
      StoreLog checkIn checkOut b (⟨.hasOverlap b.tableID checkIn checkOut "", .ok false⟩ ::
        ⟨.create b, .ok id⟩ :: l) (.ok (b.withID id))

inductive CreateLog (dto : CreateBookingInput) (createdBy role : String) : Log Res → Reply → Prop
  | invalid {e : GoError} (h : parseTimes dto.checkInTime dto.checkOutTime = .error e) :
      CreateLog dto createdBy role [] (.error e)
  | inPast {checkIn checkOut duration now : Int} {l : Log Res}
      (htimes : parseTimes dto.checkInTime dto.checkOutTime = .ok (checkIn, checkOut, duration))
      (hstaff : (staffRefused checkIn now role).Path l true) :
      CreateLog dto createdBy role (⟨.now, now⟩ :: l) (.error staffInPast)
  | allowed {checkIn checkOut duration now : Int} {l l' : Log Res} {r : Reply}
      (htimes : parseTimes dto.checkInTime dto.checkOutTime = .ok (checkIn, checkOut, duration))
      (hstaff : (staffRefused checkIn now role).Path l false)
      (h : StoreLog checkIn checkOut (newBooking dto createdBy checkIn checkOut duration now) l' r) :
      CreateLog dto createdBy role (⟨.now, now⟩ :: (l ++ l')) r

theorem createLog_of_path {dto : CreateBookingInput} {createdBy role : String} {l : Log Res} {r : Reply}
    (h : (createLocked dto createdBy role).Path l r) : CreateLog dto createdBy role l r := by
  unfold createLocked at h
  split at h
  · rename_i htimes
    obtain ⟨rfl, rfl⟩ := Prog.path_ret.1 h
    exact .invalid htimes
  · rename_i htimes
    simp only [timeNow, BookingRepository.hasOverlap, BookingRepository.create, Prog.call_bind] at h
    obtain ⟨now, l₁, rfl, hk⟩ := Prog.path_act.1 h
    obtain ⟨l₂, l₃, refused, rfl, hstaff, hk₁⟩ := Prog.path_bind.1 hk
    cases refused with
    | true =>
      obtain ⟨rfl, rfl⟩ := Prog.path_ret.1 hk₁
      rw [List.append_nil]
      exact .inPast htimes hstaff
    | false =>
      refine .allowed htimes hstaff ?_
      obtain ⟨overlap, l₄, rfl, hk₂⟩ := Prog.path_act.1 hk₁
      rcases overlap with e | _ | _
      · obtain ⟨rfl, rfl⟩ := Prog.path_ret.1 hk₂
        exact .unchecked
      · obtain ⟨id, l₅, rfl, hk₃⟩ := Prog.path_act.1 hk₂
        cases id with
        | error e =>
          obtain ⟨rfl, rfl⟩ := Prog.path_ret.1 hk₃
          exact .failed
        | ok id =>
          obtain ⟨l₆, l₇, _, rfl, hsync, hret⟩ := Prog.path_bind.1 hk₃
          obtain ⟨rfl, rfl⟩ := Prog.path_ret.1 hret
          rw [List.append_nil]
          exact .stored hsync
      · obtain ⟨rfl, rfl⟩ := Prog.path_ret.1 hk₂
        exact .overlap

/-! ## Updates and cancellations -/

/-- A request for the booking `id`, where `body` works on what is found the second time. -/
inductive FreshLog (id : String) (body : Booking → Go Reply) : Log Res → Reply → Prop
  | unfetched {e : GoError} :
      FreshLog id body [⟨.findByID id, .error e⟩] (.error (.wrap "fetch booking" e))
  | missing {found : Option Booking} (h : ∀ b, found = some b → b.status = .cancelled) :
      FreshLog id body [⟨.findByID id, .ok found⟩] (.error notFound)
  | gone {b : Booking} {m : MutexRef} {l : Log Res} {again : Except GoError (Option Booking)}
      (hmutex : (getTableMutex b.tableID).Path l m)
      (h : ∀ b, again = .ok (some b) → b.status = .cancelled) :
      FreshLog id body (⟨.findByID id, .ok (some b)⟩ ::
        (l ++ ([⟨.lock m, ()⟩] ++ ([⟨.findByID id, again⟩] ++ [⟨.unlock m, ()⟩])))) (.error notFound)
  | found {b fresh : Booking} {m : MutexRef} {l l' : Log Res} {r : Reply}
      (hmutex : (getTableMutex b.tableID).Path l m) (hbody : (body fresh).Path l' r) :
      FreshLog id body (⟨.findByID id, .ok (some b)⟩ ::
        (l ++ ([⟨.lock m, ()⟩] ++ (⟨.findByID id, .ok (some fresh)⟩ :: l' ++ [⟨.unlock m, ()⟩])))) r

theorem freshLog_of_path {id : String} {body : Booking → Go Reply} {l : Log Res} {r : Reply}
    (h : (withFresh id body).Path l r) : FreshLog id body l r := by
  simp only [withFresh, BookingRepository.findByID, Prog.call_bind] at h
  obtain ⟨found, l₁, rfl, hk⟩ := Prog.path_act.1 h
  rcases found with e | _ | b
  · obtain ⟨rfl, rfl⟩ := Prog.path_ret.1 hk
    exact .unfetched
  · obtain ⟨rfl, rfl⟩ := Prog.path_ret.1 hk
    exact .missing (by simp)
  · dsimp only at hk
    split at hk
    · rename_i hcancelled
      obtain ⟨rfl, rfl⟩ := Prog.path_ret.1 hk
      exact .missing (by simpa using hcancelled)
    · obtain ⟨l₂, l₃, m, rfl, hmutex, hlocked⟩ := Prog.path_bind.1 hk
      obtain ⟨l₄, rfl, hfresh⟩ := path_withLock hlocked
      simp only [refetch, BookingRepository.findByID, Prog.call_bind] at hfresh
      obtain ⟨again, l₅, rfl, hk₁⟩ := Prog.path_act.1 hfresh
      rcases again with e | _ | fresh
      · obtain ⟨rfl, rfl⟩ := Prog.path_ret.1 hk₁
        exact .gone hmutex (by simp)
      · obtain ⟨rfl, rfl⟩ := Prog.path_ret.1 hk₁
        exact .gone hmutex (by simp)
      · dsimp only at hk₁
        split at hk₁
        · rename_i hcancelled
          obtain ⟨rfl, rfl⟩ := Prog.path_ret.1 hk₁
          exact .gone hmutex (by simpa using hcancelled)
        · exact .found hmutex hk₁

/-- The overlap check of an update. -/
inductive WindowLog (t : Int) (id : String) : Option (Int × Int) → Log Res → Except GoError Unit → Prop
  | unasked : WindowLog t id none [] (.ok ())
  | unchecked {newIn newOut : Int} {e : GoError} : WindowLog t id (some (newIn, newOut))
      [⟨.hasOverlap t newIn newOut id, .error e⟩] (.error (.wrap "overlap check" e))
  | overlap {newIn newOut : Int} : WindowLog t id (some (newIn, newOut))
      [⟨.hasOverlap t newIn newOut id, .ok true⟩] (.error (alreadyBookedInWindow t))
  | free {newIn newOut : Int} : WindowLog t id (some (newIn, newOut))
      [⟨.hasOverlap t newIn newOut id, .ok false⟩] (.ok ())

theorem windowLog_of_path {t : Int} {window : Option (Int × Int)} {id : String} {l : Log Res}
    {a : Except GoError Unit} (h : (checkWindow t window id).Path l a) : WindowLog t id window l a := by
  rcases window with _ | ⟨newIn, newOut⟩
  · obtain ⟨rfl, rfl⟩ := Prog.path_ret.1 h
    exact .unasked
  · simp only [checkWindow, BookingRepository.hasOverlap, Prog.call_bind] at h
    obtain ⟨overlap, l₁, rfl, hk⟩ := Prog.path_act.1 h
    rcases overlap with e | _ | _ <;> obtain ⟨rfl, rfl⟩ := Prog.path_ret.1 hk
    · exact .unchecked
    · exact .free
    · exact .overlap

inductive UpdateLog (id : String) (dto : UpdateBookingInput) (fresh : Booking) : Log Res → Reply → Prop
  | invalid {e : GoError} (h : requestedWindow fresh dto = .error e) :
      UpdateLog id dto fresh [] (.error e)
  | refused {window : Option (Int × Int)} {l : Log Res} {e : GoError}
      (hcheck : WindowLog fresh.tableID id window l (.error e)) : UpdateLog id dto fresh l (.error e)
  | failed {window : Option (Int × Int)} {l : Log Res} {e : GoError}
      (hcheck : WindowLog fresh.tableID id window l (.ok ())) : UpdateLog id dto fresh
        (l ++ [⟨.save (updated fresh dto window), .error e⟩]) (.error (.wrap "save booking" e))
  | saved {window : Option (Int × Int)} {l l' : Log Res}
      (hcheck : WindowLog fresh.tableID id window l (.ok ()))
      (hsync : (syncUpdated (updated fresh dto window)).Path l' ()) : UpdateLog id dto fresh
        (l ++ ⟨.save (updated fresh dto window), .ok ()⟩ :: l') (.ok (updated fresh dto window))

theorem updateLog_of_path {id : String} {dto : UpdateBookingInput} {fresh : Booking} {l : Log Res}
    {r : Reply} (h : (updateFresh id dto fresh).Path l r) : UpdateLog id dto fresh l r := by
  unfold updateFresh at h
  split at h
  · rename_i hwindow
    obtain ⟨rfl, rfl⟩ := Prog.path_ret.1 h
    exact .invalid hwindow
  · obtain ⟨l₁, l₂, checked, rfl, hcheck, hk⟩ := Prog.path_bind.1 h
    have hcheck := windowLog_of_path hcheck
    rcases checked with e | _
    · obtain ⟨rfl, rfl⟩ := Prog.path_ret.1 hk
      rw [List.append_nil]
      exact .refused hcheck
    · simp only [BookingRepository.save, Prog.call_bind] at hk
      obtain ⟨saved, l₃, rfl, hk₁⟩ := Prog.path_act.1 hk
      rcases saved with e | _
      · obtain ⟨rfl, rfl⟩ := Prog.path_ret.1 hk₁
        exact .failed hcheck
      · obtain ⟨l₄, l₅, _, rfl, hsync, hret⟩ := Prog.path_bind.1 hk₁
        obtain ⟨rfl, rfl⟩ := Prog.path_ret.1 hret
        rw [List.append_nil]
        exact .saved hcheck hsync

inductive CancelLog (id : String) (fresh : Booking) : Log Res → Reply → Prop
  | failed {e : GoError} : CancelLog id fresh [⟨.save (cancelled fresh), .error e⟩]
      (.error (.wrap "save cancelled booking" e))
  | saved {l : Log Res} (hsync : (syncCancelled id (cancelled fresh)).Path l ()) :
      CancelLog id fresh (⟨.save (cancelled fresh), .ok ()⟩ :: l) (.ok (cancelled fresh))

theorem cancelLog_of_path {id : String} {fresh : Booking} {l : Log Res} {r : Reply}
    (h : (cancelFresh id fresh).Path l r) : CancelLog id fresh l r := by
  simp only [cancelFresh, BookingRepository.save, Prog.call_bind] at h
  obtain ⟨saved, l₁, rfl, hk⟩ := Prog.path_act.1 h
  rcases saved with e | _
  · obtain ⟨rfl, rfl⟩ := Prog.path_ret.1 hk
    exact .failed
  · obtain ⟨l₂, l₃, _, rfl, hsync, hret⟩ := Prog.path_bind.1 hk
    obtain ⟨rfl, rfl⟩ := Prog.path_ret.1 hret
    rw [List.append_nil]
    exact .saved hsync

end BookingService

end GbcVenue
