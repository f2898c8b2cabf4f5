import Mniam.AMCOM.CRC
import Mniam.AMCOM.Transactions
import Mniam.Connection.Table
import Mniam.Connection.Lifetime
import Mniam.Connection.Rtt
import Mniam.Engine.Contact
import Mniam.Amgame.Batch
import Mniam.Amgame.Update
import Mniam.Remote.Safety
import Mniam.Remote.Race
import Mniam.Amgame.Match
