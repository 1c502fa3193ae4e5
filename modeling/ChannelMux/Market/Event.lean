import ChannelMux.Channel.Key
import ChannelMux.Json.Value
import ChannelMux.Text.Ascii

/-!
Decoded pushes. Tickers, trades and order books have a model of their own; any other payload is kept
as the JSON that was sent.
-/
namespace ChannelMux.Market

inductive Side where
  | buy
  | sell
deriving DecidableEq, Repr

/-- Either word in any case of letters. -/
def Side.parse? (text : String) : Option Side :=
  if Text.sameIgnoringCase text "buy" then some .buy
  else if Text.sameIgnoringCase text "sell" then some .sell
  else none

/-- Last price and best bid and ask. What a push leaves out is absent. -/
structure Ticker where
  symbol : String
  last : Option Binary64
  bidPrice : Option Binary64
  bidSize : Option Binary64
  askPrice : Option Binary64
  askSize : Option Binary64
  timeMs : Nat
deriving DecidableEq, Repr

structure Trade where
  symbol : String
  id : String
  price : Binary64
  size : Binary64
  /-- The side of the taker. -/
  side : Side
  timeMs : Nat
deriving DecidableEq, Repr

structure Level where
  price : Binary64
  size : Binary64
deriving DecidableEq, Repr

structure Book where
  symbol : String
  /-- The whole book, or a change to it. -/
  snapshot : Bool
  bids : List Level
  asks : List Level
  sequence : Option Nat
  timeMs : Nat
deriving DecidableEq, Repr

inductive Payload where
  | ticker (ticker : Ticker)
  | trades (trades : List Trade)
  | book (book : Book)
  | raw (value : Json.Value)
deriving Repr

structure Event where
  key : ChannelKey
  payload : Payload
deriving Repr

namespace Book

def bestBid (book : Book) : Option Level := book.bids.head?
def bestAsk (book : Book) : Option Level := book.asks.head?

end Book

namespace Event

open Decimal (writeOption Style)

/-- One line for a log. -/
def describe (event : Event) : String :=
  event.key.text ++ match event.payload with
    | .ticker t =>
      " last=" ++ writeOption t.last ++ " bid=" ++ writeOption t.bidPrice ++ "@"
        ++ writeOption t.bidSize ++ " ask=" ++ writeOption t.askPrice ++ "@"
        ++ writeOption t.askSize
    | .trades trades =>
      match trades.getLast? with
      | none => " 0 trades"
      | some t =>
        let side := match t.side with
          | .buy => "Buy"
          | .sell => "Sell"
        " " ++ toString trades.length ++ " trade(s), last " ++ side ++ " "
          ++ Style.plain.write t.size ++ "@" ++ Style.plain.write t.price
    | .book book =>
      (if book.snapshot then " book snapshot bid=" else " book delta bid=")
        ++ writeOption (book.bestBid.map Level.price) ++ " ask="
        ++ writeOption (book.bestAsk.map Level.price)
    | .raw value => " " ++ value.write

end Event

end ChannelMux.Market
