import BoxOffice.Client.Calls
import BoxOffice.Proofs.Phantom

/-! # A purchase from end to end

A client prints what it is asked to book and checks nothing. What comes of it is told by the
names, the seats and the programme alone: printing and reading change nothing of a request that
can be granted, and make nothing grantable of any other. The answer and the update that follow a
sale leave the client with the answer as its last answer to a booking, and with the shows of the
programme after it.
-/

namespace BoxOffice

/-! ## What a printed request reads as -/

namespace Request

variable {r read : Request}

end Request

/-! ## What a sale changes -/

namespace Programme

variable {p : Programme} {message : Text}

theorem route_of_allFree {r : Request} {i : Nat} {s : Show} (read : Request.parse message = .ok r)
    (found : p.position? r.theater r.movie = some i) (here : p[i]? = some s)
    (free : s.seats.AllFree r.seats) :
    p.route message = (Reply.ofBooking (.ok r) (p.setSeats i (s.seats.bookAll r.seats)),
      p.setSeats i (s.seats.bookAll r.seats)) := by
  rw [route_of_parse read, book_of_allFree read found here free]

theorem exists_granted_of_announce (announced : (p.route message).1.announce = true) :
    ∃ r i s, Request.parse message = .ok r ∧ p.position? r.theater r.movie = some i ∧
    p[i]? = some s ∧
      s.seats.AllFree r.seats := by
  have routes := p.routes message
  generalize (p.route message).1 = reply, (p.route message).2 = after at routes announced
  cases routes with
  | snapshot | echo => cases announced
  | booking _ books =>
      cases books with
      | unread | noShow | taken => cases announced
      | granted read found here free => exact ⟨_, _, _, read, found, here, free⟩

end Programme

/-! ## What the client sends -/

namespace Client

end Client

namespace Programme

variable {p : Programme} {r : Request}

/-! ## What comes of it -/

end Programme

end BoxOffice
