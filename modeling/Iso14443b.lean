import Iso14443b.Basic
import Iso14443b.ToSend
import Iso14443b.Uart
import Iso14443b.UartFrame
import Iso14443b.Demod
import Iso14443b.DemodFrame
import Iso14443b.Answer
import Iso14443b.Sim
import Iso14443b.Reader
import Iso14443b.Sniff
import Iso14443b.SniffFrame
import Iso14443b.Exchange
import Iso14443b.Dump
import Iso14443b.Dma
import Iso14443b.Link
import Iso14443b.Session
import Iso14443b.Command
