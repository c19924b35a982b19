/-!
# Names of characters

What Unicode 14 calls characters.

* `characterNames`: the names one by one.
* `numberedNames`: the names that only differ by a number.
-/

namespace Bindery.Text

/-- The names of characters and their other names, by code points. In front of each name a letter
tells how many of its first words are those of the name before it. It belongs to the next code point
unless it tells its own one before that letter. Line ends do not count. -/
def characterNames : String := "
aNULL@0aNULaSTART OF HEADING@1aSOHaSTART OF TEXT@2aSTXaEND OF TEXT@3aETXaEND OF TRANSMISSION@4a
EOTaENQUIRY@5aENQaACKNOWLEDGE@6aACKaALERT@7aBELaBACKSPACE@8aBSaCHARACTER TABULATION@9aHORIZONTA
L TABULATION@9aHT@9aTABaLINE FEED@AaNEW LINE@AaEND OF LINE@AaLF@AaNL@AaEOLaLINE TABULATION@BaVE
RTICAL TABULATION@BaVTaFORM FEED@CaFFaCARRIAGE RETURN@DaCRaSHIFT OUT@EaLOCKING-SHIFT ONE@EaSOaS
HIFT IN@FaLOCKING-SHIFT ZERO@FaSIaDATA LINK ESCAPE@10aDLEaDEVICE CONTROL ONE@11aDC1aDEVICE CONT
ROL TWO@12aDC2aDEVICE CONTROL THREE@13aDC3aDEVICE CONTROL FOUR@14aDC4aNEGATIVE ACKNOWLEDGE@15aN
AKaSYNCHRONOUS IDLE@16aSYNaEND OF TRANSMISSION BLOCK@17aETBaCANCEL@18aCANaEND OF MEDIUM@19aEOMa
SUBSTITUTE@1AaSUBaESCAPE@1BaESCaINFORMATION SEPARATOR FOUR@1CaFILE SEPARATOR@1CaFSaINFORMATIO
N SEPARATOR THREE@1DaGROUP SEPARATOR@1DaGSaINFORMATION SEPARATOR TWO@1EaRECORD SEPARATOR@1EaRSa
INFORMATION SEPARATOR ONE@1FaUNIT SEPARATOR@1FaUSaSPACE@20aSPaEXCLAMATION MARKaQUOTATION MARKaN
UMBER SIGNaDOLLAR SIGNaPERCENT SIGNaAMPERSANDaAPOSTROPHEaLEFT PARENTHESISaRIGHT PARENTHESISaAST
ERISKaPLUS SIGNaCOMMAaHYPHEN-MINUSaFULL STOPaSOLIDUSaDIGIT ZERObONEbTWObTHREEbFOURbFIVEbSIXbSEV
ENbEIGHTbNINEaCOLONaSEMICOLONaLESS-THAN SIGNaEQUALS SIGNaGREATER-THAN SIGNaQUESTION MARKaCOMMER
CIAL ATaLATIN CAPITAL LETTER AdBdCdDdEdFdGdHdIdJdKdLdMdNdOdPdQdRdSdTdUdVdWdXdYdZaLEFT SQUARE BR
ACKETaREVERSE SOLIDUSaRIGHT SQUARE BRACKETaCIRCUMFLEX ACCENTaLOW LINEaGRAVE ACCENTaLATIN SMAL
L LETTER AdBdCdDdEdFdGdHdIdJdKdLdMdNdOdPdQdRdSdTdUdVdWdXdYdZaLEFT CURLY BRACKETaVERTICAL LINEaR
IGHT CURLY BRACKETaTILDEaDELETE@7FaDELaPADDING CHARACTER@80aPADaHIGH OCTET PRESET@81aHOPaBREA
K PERMITTED HERE@82aBPHaNO BREAK HERE@83aNBHaINDEX@84aINDaNEXT LINE@85aNELaSTART OF SELECTED AR
EA@86aSSAaEND OF SELECTED AREA@87aESAaCHARACTER TABULATION SET@88aHORIZONTAL TABULATION SET@88a
HTSaCHARACTER TABULATION WITH JUSTIFICATION@89aHORIZONTAL TABULATION WITH JUSTIFICATION@89aHTJa
LINE TABULATION SET@8AaVERTICAL TABULATION SET@8AaVTSaPARTIAL LINE FORWARD@8BcDOWN@8BaPLDaPARTI
AL LINE BACKWARD@8CcUP@8CaPLUaREVERSE LINE FEED@8DbINDEX@8DaRIaSINGLE SHIFT TWO@8EaSINGLE-SHIFT
-2@8EaSS2aSINGLE SHIFT THREE@8FaSINGLE-SHIFT-3@8FaSS3aDEVICE CONTROL STRING@90aDCSaPRIVATE US
E ONE@91bUSE-1@91aPU1aPRIVATE USE TWO@92bUSE-2@92aPU2aSET TRANSMIT STATE@93aSTSaCANCEL CHARACTE
R@94aCCHaMESSAGE WAITING@95aMWaSTART OF GUARDED AREA@96cPROTECTED AREA@96aSPAaEND OF GUARDED AR
EA@97cPROTECTED AREA@97aEPAaSTART OF STRING@98aSOSaSINGLE GRAPHIC CHARACTER INTRODUCER@99aSGCaS
INGLE CHARACTER INTRODUCER@9AaSCIaCONTROL SEQUENCE INTRODUCER@9BaCSIaSTRING TERMINATOR@9CaSTaOP
ERATING SYSTEM COMMAND@9DaOSCaPRIVACY MESSAGE@9EaPMaAPPLICATION PROGRAM COMMAND@9FaAPCaNO-BREA
K SPACE@A0aNBSPaINVERTED EXCLAMATION MARKaCENT SIGNaPOUND SIGNaCURRENCY SIGNaYEN SIGNaBROKEN BA
RaSECTION SIGNaDIAERESISaCOPYRIGHT SIGNaFEMININE ORDINAL INDICATORaLEFT-POINTING DOUBLE ANGLE Q
UOTATION MARKaNOT SIGNaSOFT HYPHEN@ADaSHYaREGISTERED SIGNaMACRONaDEGREE SIGNaPLUS-MINUS SIGNaSU
PERSCRIPT TWObTHREEaACUTE ACCENTaMICRO SIGNaPILCROW SIGNaMIDDLE DOTaCEDILLAaSUPERSCRIPT ONEaMAS
CULINE ORDINAL INDICATORaRIGHT-POINTING DOUBLE ANGLE QUOTATION MARKaVULGAR FRACTION ONE QUARTER
dHALFcTHREE QUARTERSaINVERTED QUESTION MARKaLATIN CAPITAL LETTER A WITH GRAVEfACUTEfCIRCUMFLEXf
TILDEfDIAERESISfRING ABOVEdAEdC WITH CEDILLAdE WITH GRAVEfACUTEfCIRCUMFLEXfDIAERESISdI WITH GRA
VEfACUTEfCIRCUMFLEXfDIAERESISdETHdN WITH TILDEdO WITH GRAVEfACUTEfCIRCUMFLEXfTILDEfDIAERESISaMU
LTIPLICATION SIGNaLATIN CAPITAL LETTER O WITH STROKEdU WITH GRAVEfACUTEfCIRCUMFLEXfDIAERESISd
Y WITH ACUTEdTHORNbSMALL LETTER SHARP SdA WITH GRAVEfACUTEfCIRCUMFLEXfTILDEfDIAERESISfRING ABOV
EdAEdC WITH CEDILLAdE WITH GRAVEfACUTEfCIRCUMFLEXfDIAERESISdI WITH GRAVEfACUTEfCIRCUMFLEXfDIAER
ESISdETHdN WITH TILDEdO WITH GRAVEfACUTEfCIRCUMFLEXfTILDEfDIAERESISaDIVISION SIGNaLATIN SMALL L
ETTER O WITH STROKEdU WITH GRAVEfACUTEfCIRCUMFLEXfDIAERESISdY WITH ACUTEdTHORNdY WITH DIAERESIS
bCAPITAL LETTER A WITH MACRONbSMALL LETTER A WITH MACRONbCAPITAL LETTER A WITH BREVEbSMALL LETT
ER A WITH BREVEbCAPITAL LETTER A WITH OGONEKbSMALL LETTER A WITH OGONEKbCAPITAL LETTER C WITH A
CUTEbSMALL LETTER C WITH ACUTEbCAPITAL LETTER C WITH CIRCUMFLEXbSMALL LETTER C WITH CIRCUMFLEXb
CAPITAL LETTER C WITH DOT ABOVEbSMALL LETTER C WITH DOT ABOVEbCAPITAL LETTER C WITH CARONbSMAL
L LETTER C WITH CARONbCAPITAL LETTER D WITH CARONbSMALL LETTER D WITH CARONbCAPITAL LETTER D WI
TH STROKEbSMALL LETTER D WITH STROKEbCAPITAL LETTER E WITH MACRONbSMALL LETTER E WITH MACRONbCA
PITAL LETTER E WITH BREVEbSMALL LETTER E WITH BREVEbCAPITAL LETTER E WITH DOT ABOVEbSMALL LETTE
R E WITH DOT ABOVEbCAPITAL LETTER E WITH OGONEKbSMALL LETTER E WITH OGONEKbCAPITAL LETTER E WIT
H CARONbSMALL LETTER E WITH CARONbCAPITAL LETTER G WITH CIRCUMFLEXbSMALL LETTER G WITH CIRCUMFL
EXbCAPITAL LETTER G WITH BREVEbSMALL LETTER G WITH BREVEbCAPITAL LETTER G WITH DOT ABOVEbSMAL
L LETTER G WITH DOT ABOVEbCAPITAL LETTER G WITH CEDILLAbSMALL LETTER G WITH CEDILLAbCAPITAL LET
TER H WITH CIRCUMFLEXbSMALL LETTER H WITH CIRCUMFLEXbCAPITAL LETTER H WITH STROKEbSMALL LETTE
R H WITH STROKEbCAPITAL LETTER I WITH TILDEbSMALL LETTER I WITH TILDEbCAPITAL LETTER I WITH MAC
RONbSMALL LETTER I WITH MACRONbCAPITAL LETTER I WITH BREVEbSMALL LETTER I WITH BREVEbCAPITAL LE
TTER I WITH OGONEKbSMALL LETTER I WITH OGONEKbCAPITAL LETTER I WITH DOT ABOVEbSMALL LETTER DOTL
ESS IbCAPITAL LIGATURE IJbSMALL LIGATURE IJbCAPITAL LETTER J WITH CIRCUMFLEXbSMALL LETTER J WIT
H CIRCUMFLEXbCAPITAL LETTER K WITH CEDILLAbSMALL LETTER K WITH CEDILLAdKRAbCAPITAL LETTER L WIT
H ACUTEbSMALL LETTER L WITH ACUTEbCAPITAL LETTER L WITH CEDILLAbSMALL LETTER L WITH CEDILLAbCAP
ITAL LETTER L WITH CARONbSMALL LETTER L WITH CARONbCAPITAL LETTER L WITH MIDDLE DOTbSMALL LETTE
R L WITH MIDDLE DOTbCAPITAL LETTER L WITH STROKEbSMALL LETTER L WITH STROKEbCAPITAL LETTER N WI
TH ACUTEbSMALL LETTER N WITH ACUTEbCAPITAL LETTER N WITH CEDILLAbSMALL LETTER N WITH CEDILLAbCA
PITAL LETTER N WITH CARONbSMALL LETTER N WITH CARONePRECEDED BY APOSTROPHEbCAPITAL LETTER ENGbS
MALL LETTER ENGbCAPITAL LETTER O WITH MACRONbSMALL LETTER O WITH MACRONbCAPITAL LETTER O WITH B
REVEbSMALL LETTER O WITH BREVEbCAPITAL LETTER O WITH DOUBLE ACUTEbSMALL LETTER O WITH DOUBLE AC
UTEbCAPITAL LIGATURE OEbSMALL LIGATURE OEbCAPITAL LETTER R WITH ACUTEbSMALL LETTER R WITH ACUTE
bCAPITAL LETTER R WITH CEDILLAbSMALL LETTER R WITH CEDILLAbCAPITAL LETTER R WITH CARONbSMALL LE
TTER R WITH CARONbCAPITAL LETTER S WITH ACUTEbSMALL LETTER S WITH ACUTEbCAPITAL LETTER S WITH C
IRCUMFLEXbSMALL LETTER S WITH CIRCUMFLEXbCAPITAL LETTER S WITH CEDILLAbSMALL LETTER S WITH CEDI
LLAbCAPITAL LETTER S WITH CARONbSMALL LETTER S WITH CARONbCAPITAL LETTER T WITH CEDILLAbSMALL L
ETTER T WITH CEDILLAbCAPITAL LETTER T WITH CARONbSMALL LETTER T WITH CARONbCAPITAL LETTER T WIT
H STROKEbSMALL LETTER T WITH STROKEbCAPITAL LETTER U WITH TILDEbSMALL LETTER U WITH TILDEbCAPIT
AL LETTER U WITH MACRONbSMALL LETTER U WITH MACRONbCAPITAL LETTER U WITH BREVEbSMALL LETTER U W
ITH BREVEbCAPITAL LETTER U WITH RING ABOVEbSMALL LETTER U WITH RING ABOVEbCAPITAL LETTER U WIT
H DOUBLE ACUTEbSMALL LETTER U WITH DOUBLE ACUTEbCAPITAL LETTER U WITH OGONEKbSMALL LETTER U WIT
H OGONEKbCAPITAL LETTER W WITH CIRCUMFLEXbSMALL LETTER W WITH CIRCUMFLEXbCAPITAL LETTER Y WIT
H CIRCUMFLEXbSMALL LETTER Y WITH CIRCUMFLEXbCAPITAL LETTER Y WITH DIAERESISdZ WITH ACUTEbSMAL
L LETTER Z WITH ACUTEbCAPITAL LETTER Z WITH DOT ABOVEbSMALL LETTER Z WITH DOT ABOVEbCAPITAL LET
TER Z WITH CARONbSMALL LETTER Z WITH CARONdLONG SdB WITH STROKEbCAPITAL LETTER B WITH HOOKfTOPB
ARbSMALL LETTER B WITH TOPBARbCAPITAL LETTER TONE SIXbSMALL LETTER TONE SIXbCAPITAL LETTER OPE
N OdC WITH HOOKbSMALL LETTER C WITH HOOKbCAPITAL LETTER AFRICAN DdD WITH HOOKfTOPBARbSMALL LETT
ER D WITH TOPBARdTURNED DELTAbCAPITAL LETTER REVERSED EdSCHWAdOPEN EdF WITH HOOKbSMALL LETTE
R F WITH HOOKbCAPITAL LETTER G WITH HOOKdGAMMAbSMALL LETTER HVbCAPITAL LETTER IOTAdI WITH STROK
EdK WITH HOOKbSMALL LETTER K WITH HOOKdL WITH BARdLAMBDA WITH STROKEbCAPITAL LETTER TURNED Md
N WITH LEFT HOOKbSMALL LETTER N WITH LONG RIGHT LEGbCAPITAL LETTER O WITH MIDDLE TILDEfHORNbSMA
LL LETTER O WITH HORNbCAPITAL LETTER OI@1A2dGHAbSMALL LETTER OI@1A3dGHAbCAPITAL LETTER P WITH H
OOKbSMALL LETTER P WITH HOOKbLETTER YRbCAPITAL LETTER TONE TWObSMALL LETTER TONE TWObCAPITAL LE
TTER ESHbLETTER REVERSED ESH LOOPbSMALL LETTER T WITH PALATAL HOOKbCAPITAL LETTER T WITH HOOKbS
MALL LETTER T WITH HOOKbCAPITAL LETTER T WITH RETROFLEX HOOKdU WITH HORNbSMALL LETTER U WITH HO
RNbCAPITAL LETTER UPSILONdV WITH HOOKdY WITH HOOKbSMALL LETTER Y WITH HOOKbCAPITAL LETTER Z WIT
H STROKEbSMALL LETTER Z WITH STROKEbCAPITAL LETTER EZHeREVERSEDbSMALL LETTER EZH REVERSEDeWIT
H TAILbLETTER TWO WITH STROKEbCAPITAL LETTER TONE FIVEbSMALL LETTER TONE FIVEbLETTER INVERTED G
LOTTAL STOP WITH STROKEcWYNNcDENTAL CLICKcLATERAL CLICKcALVEOLAR CLICKcRETROFLEX CLICKbCAPITA
L LETTER DZ WITH CARONdD WITH SMALL LETTER Z WITH CARONbSMALL LETTER DZ WITH CARONbCAPITAL LETT
ER LJdL WITH SMALL LETTER JbSMALL LETTER LJbCAPITAL LETTER NJdN WITH SMALL LETTER JbSMALL LETTE
R NJbCAPITAL LETTER A WITH CARONbSMALL LETTER A WITH CARONbCAPITAL LETTER I WITH CARONbSMALL LE
TTER I WITH CARONbCAPITAL LETTER O WITH CARONbSMALL LETTER O WITH CARONbCAPITAL LETTER U WITH C
ARONbSMALL LETTER U WITH CARONbCAPITAL LETTER U WITH DIAERESIS AND MACRONbSMALL LETTER U WITH D
IAERESIS AND MACRONbCAPITAL LETTER U WITH DIAERESIS AND ACUTEbSMALL LETTER U WITH DIAERESIS AN
D ACUTEbCAPITAL LETTER U WITH DIAERESIS AND CARONbSMALL LETTER U WITH DIAERESIS AND CARONbCAPIT
AL LETTER U WITH DIAERESIS AND GRAVEbSMALL LETTER U WITH DIAERESIS AND GRAVEdTURNED EbCAPITAL L
ETTER A WITH DIAERESIS AND MACRONbSMALL LETTER A WITH DIAERESIS AND MACRONbCAPITAL LETTER A WIT
H DOT ABOVE AND MACRONbSMALL LETTER A WITH DOT ABOVE AND MACRONbCAPITAL LETTER AE WITH MACRONbS
MALL LETTER AE WITH MACRONbCAPITAL LETTER G WITH STROKEbSMALL LETTER G WITH STROKEbCAPITAL LETT
ER G WITH CARONbSMALL LETTER G WITH CARONbCAPITAL LETTER K WITH CARONbSMALL LETTER K WITH CARON
bCAPITAL LETTER O WITH OGONEKbSMALL LETTER O WITH OGONEKbCAPITAL LETTER O WITH OGONEK AND MACRO
NbSMALL LETTER O WITH OGONEK AND MACRONbCAPITAL LETTER EZH WITH CARONbSMALL LETTER EZH WITH CAR
ONdJ WITH CARONbCAPITAL LETTER DZdD WITH SMALL LETTER ZbSMALL LETTER DZbCAPITAL LETTER G WITH A
CUTEbSMALL LETTER G WITH ACUTEbCAPITAL LETTER HWAIRdWYNNdN WITH GRAVEbSMALL LETTER N WITH GRAVE
bCAPITAL LETTER A WITH RING ABOVE AND ACUTEbSMALL LETTER A WITH RING ABOVE AND ACUTEbCAPITAL LE
TTER AE WITH ACUTEbSMALL LETTER AE WITH ACUTEbCAPITAL LETTER O WITH STROKE AND ACUTEbSMALL LETT
ER O WITH STROKE AND ACUTEbCAPITAL LETTER A WITH DOUBLE GRAVEbSMALL LETTER A WITH DOUBLE GRAVEb
CAPITAL LETTER A WITH INVERTED BREVEbSMALL LETTER A WITH INVERTED BREVEbCAPITAL LETTER E WITH D
OUBLE GRAVEbSMALL LETTER E WITH DOUBLE GRAVEbCAPITAL LETTER E WITH INVERTED BREVEbSMALL LETTE
R E WITH INVERTED BREVEbCAPITAL LETTER I WITH DOUBLE GRAVEbSMALL LETTER I WITH DOUBLE GRAVEbCAP
ITAL LETTER I WITH INVERTED BREVEbSMALL LETTER I WITH INVERTED BREVEbCAPITAL LETTER O WITH DOUB
LE GRAVEbSMALL LETTER O WITH DOUBLE GRAVEbCAPITAL LETTER O WITH INVERTED BREVEbSMALL LETTER O W
ITH INVERTED BREVEbCAPITAL LETTER R WITH DOUBLE GRAVEbSMALL LETTER R WITH DOUBLE GRAVEbCAPITA
L LETTER R WITH INVERTED BREVEbSMALL LETTER R WITH INVERTED BREVEbCAPITAL LETTER U WITH DOUBL
E GRAVEbSMALL LETTER U WITH DOUBLE GRAVEbCAPITAL LETTER U WITH INVERTED BREVEbSMALL LETTER U WI
TH INVERTED BREVEbCAPITAL LETTER S WITH COMMA BELOWbSMALL LETTER S WITH COMMA BELOWbCAPITAL LET
TER T WITH COMMA BELOWbSMALL LETTER T WITH COMMA BELOWbCAPITAL LETTER YOGHbSMALL LETTER YOGHbCA
PITAL LETTER H WITH CARONbSMALL LETTER H WITH CARONbCAPITAL LETTER N WITH LONG RIGHT LEGbSMAL
L LETTER D WITH CURLbCAPITAL LETTER OUbSMALL LETTER OUbCAPITAL LETTER Z WITH HOOKbSMALL LETTE
R Z WITH HOOKbCAPITAL LETTER A WITH DOT ABOVEbSMALL LETTER A WITH DOT ABOVEbCAPITAL LETTER E WI
TH CEDILLAbSMALL LETTER E WITH CEDILLAbCAPITAL LETTER O WITH DIAERESIS AND MACRONbSMALL LETTE
R O WITH DIAERESIS AND MACRONbCAPITAL LETTER O WITH TILDE AND MACRONbSMALL LETTER O WITH TILD
E AND MACRONbCAPITAL LETTER O WITH DOT ABOVEbSMALL LETTER O WITH DOT ABOVEbCAPITAL LETTER O WIT
H DOT ABOVE AND MACRONbSMALL LETTER O WITH DOT ABOVE AND MACRONbCAPITAL LETTER Y WITH MACRONbSM
ALL LETTER Y WITH MACRONdL WITH CURLdN WITH CURLdT WITH CURLdDOTLESS JdDB DIGRAPHdQP DIGRAPHbCA
PITAL LETTER A WITH STROKEdC WITH STROKEbSMALL LETTER C WITH STROKEbCAPITAL LETTER L WITH BARd
T WITH DIAGONAL STROKEbSMALL LETTER S WITH SWASH TAILdZ WITH SWASH TAILbCAPITAL LETTER GLOTTA
L STOPbSMALL LETTER GLOTTAL STOPbCAPITAL LETTER B WITH STROKEdU BARdTURNED VdE WITH STROKEbSMAL
L LETTER E WITH STROKEbCAPITAL LETTER J WITH STROKEbSMALL LETTER J WITH STROKEbCAPITAL LETTER S
MALL Q WITH HOOK TAILbSMALL LETTER Q WITH HOOK TAILbCAPITAL LETTER R WITH STROKEbSMALL LETTE
R R WITH STROKEbCAPITAL LETTER Y WITH STROKEbSMALL LETTER Y WITH STROKEdTURNED AdALPHAdTURNED A
LPHAdB WITH HOOKdOPEN OdC WITH CURLdD WITH TAILfHOOKdREVERSED EdSCHWAeWITH HOOKdOPEN EdREVERSE
D OPEN EgWITH HOOKdCLOSED REVERSED OPEN EdDOTLESS J WITH STROKEdG WITH HOOKdSCRIPT GbLETTER SMA
LL CAPITAL GbSMALL LETTER GAMMAdRAMS HORNdTURNED HdH WITH HOOKdHENG WITH HOOKdI WITH STROKEdIOT
AbLETTER SMALL CAPITAL IbSMALL LETTER L WITH MIDDLE TILDEfBELTfRETROFLEX HOOKdLEZHdTURNED MfWIT
H LONG LEGdM WITH HOOKdN WITH LEFT HOOKfRETROFLEX HOOKbLETTER SMALL CAPITAL NbSMALL LETTER BARR
ED ObLETTER SMALL CAPITAL OEbSMALL LETTER CLOSED OMEGAdPHIdTURNED RfWITH LONG LEGgHOOKdR WITH L
ONG LEGfTAILfFISHHOOKdREVERSED R WITH FISHHOOKbLETTER SMALL CAPITAL ReINVERTED RbSMALL LETTE
R S WITH HOOKdESHdDOTLESS J WITH STROKE AND HOOKdSQUAT REVERSED ESHdESH WITH CURLdTURNED TdT WI
TH RETROFLEX HOOKdU BARdUPSILONdV WITH HOOKdTURNED VeWeYbLETTER SMALL CAPITAL YbSMALL LETTE
R Z WITH RETROFLEX HOOKfCURLdEZHeWITH CURLbLETTER GLOTTAL STOPcPHARYNGEAL VOICED FRICATIVEcINVE
RTED GLOTTAL STOPcSTRETCHED CcBILABIAL CLICKcSMALL CAPITAL BbSMALL LETTER CLOSED OPEN EbLETTE
R SMALL CAPITAL G WITH HOOKeHbSMALL LETTER J WITH CROSSED-TAILdTURNED KbLETTER SMALL CAPITAL Lb
SMALL LETTER Q WITH HOOKbLETTER GLOTTAL STOP WITH STROKEcREVERSED GLOTTAL STOP WITH STROKEbSMAL
L LETTER DZ DIGRAPHdDEZH DIGRAPHdDZ DIGRAPH WITH CURLdTS DIGRAPHdTESH DIGRAPHdTC DIGRAPH WITH C
URLdFENG DIGRAPHdLS DIGRAPHdLZ DIGRAPHbLETTER BILABIAL PERCUSSIVEcBIDENTAL PERCUSSIVEbSMALL LET
TER TURNED H WITH FISHHOOKhAND TAILaMODIFIER LETTER SMALL HeWITH HOOKdJdRdTURNED RfWITH HOOKdCA
PITAL INVERTED RdWdYcPRIMEcDOUBLE PRIMEcTURNED COMMAcAPOSTROPHEcREVERSED COMMAcRIGHT HALF RINGc
LEFT HALF RINGcGLOTTAL STOPcREVERSED GLOTTAL STOPcLEFT ARROWHEADcRIGHT ARROWHEADcUP ARROWHEADcD
OWN ARROWHEADcCIRCUMFLEX ACCENTaCARONaMODIFIER LETTER VERTICAL LINEcMACRONcACUTE ACCENTcGRAVE A
CCENTcLOW VERTICAL LINEdMACRONdGRAVE ACCENTdACUTE ACCENTcTRIANGULAR COLONcHALF TRIANGULAR COLON
cCENTRED RIGHT HALF RINGdLEFT HALF RINGcUP TACKcDOWN TACKcPLUS SIGNcMINUS SIGNaBREVEaDOT ABOVEa
RING ABOVEaOGONEKaSMALL TILDEaDOUBLE ACUTE ACCENTaMODIFIER LETTER RHOTIC HOOKcCROSS ACCENTcSMAL
L GAMMAdLdSdXdREVERSED GLOTTAL STOPcEXTRA-HIGH TONE BARcHIGH TONE BARcMID TONE BARcLOW TONE BAR
cEXTRA-LOW TONE BARcYIN DEPARTING TONE MARKcYANG DEPARTING TONE MARKcVOICINGcUNASPIRATEDcDOUBL
E APOSTROPHEcLOW DOWN ARROWHEADdUP ARROWHEADdLEFT ARROWHEADdRIGHT ARROWHEADdRINGcMIDDLE GRAVE A
CCENTdDOUBLE GRAVE ACCENTeACUTE ACCENTcLOW TILDEcRAISED COLONcBEGIN HIGH TONEcEND HIGH TONEcBEG
IN LOW TONEcEND LOW TONEcSHELFcOPEN SHELFcLOW LEFT ARROWaCOMBINING GRAVE ACCENTbACUTE ACCENTbCI
RCUMFLEX ACCENTbTILDEbMACRONbOVERLINEbBREVEbDOT ABOVEbDIAERESISbHOOK ABOVEbRING ABOVEbDOUBLE AC
UTE ACCENTbCARONbVERTICAL LINE ABOVEbDOUBLE VERTICAL LINE ABOVEcGRAVE ACCENTbCANDRABINDUbINVERT
ED BREVEbTURNED COMMA ABOVEbCOMMA ABOVEbREVERSED COMMA ABOVEbCOMMA ABOVE RIGHTbGRAVE ACCENT BEL
OWbACUTE ACCENT BELOWbLEFT TACK BELOWbRIGHT TACK BELOWbLEFT ANGLE ABOVEbHORNbLEFT HALF RING BEL
OWbUP TACK BELOWbDOWN TACK BELOWbPLUS SIGN BELOWbMINUS SIGN BELOWbPALATALIZED HOOK BELOWbRETROF
LEX HOOK BELOWbDOT BELOWbDIAERESIS BELOWbRING BELOWbCOMMA BELOWbCEDILLAbOGONEKbVERTICAL LINE BE
LOWbBRIDGE BELOWbINVERTED DOUBLE ARCH BELOWbCARON BELOWbCIRCUMFLEX ACCENT BELOWbBREVE BELOWbINV
ERTED BREVE BELOWbTILDE BELOWbMACRON BELOWbLOW LINEbDOUBLE LOW LINEbTILDE OVERLAYbSHORT STROK
E OVERLAYbLONG STROKE OVERLAYbSHORT SOLIDUS OVERLAYbLONG SOLIDUS OVERLAYbRIGHT HALF RING BELOWb
INVERTED BRIDGE BELOWbSQUARE BELOWbSEAGULL BELOWbX ABOVEbVERTICAL TILDEbDOUBLE OVERLINEbGRAVE T
ONE MARKbACUTE TONE MARKbGREEK PERISPOMENIcKORONIScDIALYTIKA TONOScYPOGEGRAMMENIbBRIDGE ABOVEbE
QUALS SIGN BELOWbDOUBLE VERTICAL LINE BELOWbLEFT ANGLE BELOWbNOT TILDE ABOVEbHOMOTHETIC ABOVEbA
LMOST EQUAL TO ABOVEbLEFT RIGHT ARROW BELOWbUPWARDS ARROW BELOWbGRAPHEME JOINER@34FaCGJaCOMBINI
NG RIGHT ARROWHEAD ABOVEbLEFT HALF RING ABOVEbFERMATAbX BELOWbLEFT ARROWHEAD BELOWbRIGHT ARROWH
EAD BELOWdAND UP ARROWHEAD BELOWcHALF RING ABOVEbDOT ABOVE RIGHTbASTERISK BELOWbDOUBLE RING BEL
OWbZIGZAG ABOVEbDOUBLE BREVE BELOWdcMACRONdBELOWcTILDEcINVERTED BREVEcRIGHTWARDS ARROW BELOWbLA
TIN SMALL LETTER AeEeIeOeUeCeDeHeMeReTeVeXaGREEK CAPITAL LETTER HETAbSMALL LETTER HETAbCAPITA
L LETTER ARCHAIC SAMPIbSMALL LETTER ARCHAIC SAMPIbNUMERAL SIGNbLOWER NUMERAL SIGNbCAPITAL LETTE
R PAMPHYLIAN DIGAMMAbSMALL LETTER PAMPHYLIAN DIGAMMA@37AbYPOGEGRAMMENIbSMALL REVERSED LUNATE SI
GMA SYMBOLcDOTTED LUNATE SIGMA SYMBOLcREVERSED DOTTED LUNATE SIGMA SYMBOLbQUESTION MARKbCAPITA
L LETTER YOT@384bTONOSbDIALYTIKA TONOSbCAPITAL LETTER ALPHA WITH TONOSbANO TELEIAbCAPITAL LETTE
R EPSILON WITH TONOSdETA WITH TONOSdIOTA WITH TONOS@38CdOMICRON WITH TONOS@38EdUPSILON WITH TON
OSdOMEGA WITH TONOSbSMALL LETTER IOTA WITH DIALYTIKA AND TONOSbCAPITAL LETTER ALPHAdBETAdGAMMAd
DELTAdEPSILONdZETAdETAdTHETAdIOTAdKAPPAdLAMDAdMUdNUdXIdOMICRONdPIdRHO@3A3dSIGMAdTAUdUPSILONdPHI
dCHIdPSIdOMEGAdIOTA WITH DIALYTIKAdUPSILON WITH DIALYTIKAbSMALL LETTER ALPHA WITH TONOSdEPSILO
N WITH TONOSdETA WITH TONOSdIOTA WITH TONOSdUPSILON WITH DIALYTIKA AND TONOSdALPHAdBETAdGAMMAdD
ELTAdEPSILONdZETAdETAdTHETAdIOTAdKAPPAdLAMDAdMUdNUdXIdOMICRONdPIdRHOdFINAL SIGMAdSIGMAdTAUdUPSI
LONdPHIdCHIdPSIdOMEGAdIOTA WITH DIALYTIKAdUPSILON WITH DIALYTIKAdOMICRON WITH TONOSdUPSILON WIT
H TONOSdOMEGA WITH TONOSbCAPITAL KAI SYMBOLbBETA SYMBOLbTHETA SYMBOLbUPSILON WITH HOOK SYMBOLdA
CUTE AND HOOK SYMBOLdDIAERESIS AND HOOK SYMBOLbPHI SYMBOLbPI SYMBOLbKAI SYMBOLbLETTER ARCHAIC K
OPPAbSMALL LETTER ARCHAIC KOPPAbLETTER STIGMAbSMALL LETTER STIGMAbLETTER DIGAMMAbSMALL LETTER D
IGAMMAbLETTER KOPPAbSMALL LETTER KOPPAbLETTER SAMPIbSMALL LETTER SAMPIaCOPTIC CAPITAL LETTER SH
EIbSMALL LETTER SHEIbCAPITAL LETTER FEIbSMALL LETTER FEIbCAPITAL LETTER KHEIbSMALL LETTER KHEIb
CAPITAL LETTER HORIbSMALL LETTER HORIbCAPITAL LETTER GANGIAbSMALL LETTER GANGIAbCAPITAL LETTE
R SHIMAbSMALL LETTER SHIMAbCAPITAL LETTER DEIbSMALL LETTER DEIaGREEK KAPPA SYMBOLbRHO SYMBOLbLU
NATE SIGMA SYMBOLbLETTER YOTbCAPITAL THETA SYMBOLbLUNATE EPSILON SYMBOLbREVERSED LUNATE EPSILO
N SYMBOLbCAPITAL LETTER SHObSMALL LETTER SHObCAPITAL LUNATE SIGMA SYMBOLcLETTER SANbSMALL LETTE
R SANbRHO WITH STROKE SYMBOLbCAPITAL REVERSED LUNATE SIGMA SYMBOLcDOTTED LUNATE SIGMA SYMBOLcRE
VERSED DOTTED LUNATE SIGMA SYMBOLaCYRILLIC CAPITAL LETTER IE WITH GRAVEdIOdDJEdGJEdUKRAINIAN IE
dDZEdBYELORUSSIAN-UKRAINIAN IdYIdJEdLJEdNJEdTSHEdKJEdI WITH GRAVEdSHORT UdDZHEdAdBEdVEdGHEdDEdI
EdZHEdZEdIdSHORT IdKAdELdEMdENdOdPEdERdESdTEdUdEFdHAdTSEdCHEdSHAdSHCHAdHARD SIGNdYERUdSOFT SIGN
dEdYUdYAbSMALL LETTER AdBEdVEdGHEdDEdIEdZHEdZEdIdSHORT IdKAdELdEMdENdOdPEdERdESdTEdUdEFdHAdTSEd
CHEdSHAdSHCHAdHARD SIGNdYERUdSOFT SIGNdEdYUdYAdIE WITH GRAVEdIOdDJEdGJEdUKRAINIAN IEdDZEdBYELOR
USSIAN-UKRAINIAN IdYIdJEdLJEdNJEdTSHEdKJEdI WITH GRAVEdSHORT UdDZHEbCAPITAL LETTER OMEGAbSMAL
L LETTER OMEGAbCAPITAL LETTER YATbSMALL LETTER YATbCAPITAL LETTER IOTIFIED EbSMALL LETTER IOTIF
IED EbCAPITAL LETTER LITTLE YUSbSMALL LETTER LITTLE YUSbCAPITAL LETTER IOTIFIED LITTLE YUSbSMAL
L LETTER IOTIFIED LITTLE YUSbCAPITAL LETTER BIG YUSbSMALL LETTER BIG YUSbCAPITAL LETTER IOTIFIE
D BIG YUSbSMALL LETTER IOTIFIED BIG YUSbCAPITAL LETTER KSIbSMALL LETTER KSIbCAPITAL LETTER PSIb
SMALL LETTER PSIbCAPITAL LETTER FITAbSMALL LETTER FITAbCAPITAL LETTER IZHITSAbSMALL LETTER IZHI
TSAbCAPITAL LETTER IZHITSA WITH DOUBLE GRAVE ACCENTbSMALL LETTER IZHITSA WITH DOUBLE GRAVE ACCE
NTbCAPITAL LETTER UKbSMALL LETTER UKbCAPITAL LETTER ROUND OMEGAbSMALL LETTER ROUND OMEGAbCAPITA
L LETTER OMEGA WITH TITLObSMALL LETTER OMEGA WITH TITLObCAPITAL LETTER OTbSMALL LETTER OTbCAPIT
AL LETTER KOPPAbSMALL LETTER KOPPAbTHOUSANDS SIGNaCOMBINING CYRILLIC TITLOcPALATALIZATIONcDASI
A PNEUMATAcPSILI PNEUMATAcPOKRYTIEcHUNDRED THOUSANDS SIGNcMILLIONS SIGNaCYRILLIC CAPITAL LETTE
R SHORT I WITH TAILbSMALL LETTER SHORT I WITH TAILbCAPITAL LETTER SEMISOFT SIGNbSMALL LETTER SE
MISOFT SIGNbCAPITAL LETTER ER WITH TICKbSMALL LETTER ER WITH TICKbCAPITAL LETTER GHE WITH UPTUR
NbSMALL LETTER GHE WITH UPTURNbCAPITAL LETTER GHE WITH STROKEbSMALL LETTER GHE WITH STROKEbCAPI
TAL LETTER GHE WITH MIDDLE HOOKbSMALL LETTER GHE WITH MIDDLE HOOKbCAPITAL LETTER ZHE WITH DESCE
NDERbSMALL LETTER ZHE WITH DESCENDERbCAPITAL LETTER ZE WITH DESCENDERbSMALL LETTER ZE WITH DESC
ENDERbCAPITAL LETTER KA WITH DESCENDERbSMALL LETTER KA WITH DESCENDERbCAPITAL LETTER KA WITH VE
RTICAL STROKEbSMALL LETTER KA WITH VERTICAL STROKEbCAPITAL LETTER KA WITH STROKEbSMALL LETTER K
A WITH STROKEbCAPITAL LETTER BASHKIR KAbSMALL LETTER BASHKIR KAbCAPITAL LETTER EN WITH DESCENDE
RbSMALL LETTER EN WITH DESCENDERbCAPITAL LIGATURE EN GHEbSMALL LIGATURE EN GHEbCAPITAL LETTER P
E WITH MIDDLE HOOKbSMALL LETTER PE WITH MIDDLE HOOKbCAPITAL LETTER ABKHASIAN HAbSMALL LETTER AB
KHASIAN HAbCAPITAL LETTER ES WITH DESCENDERbSMALL LETTER ES WITH DESCENDERbCAPITAL LETTER TE WI
TH DESCENDERbSMALL LETTER TE WITH DESCENDERbCAPITAL LETTER STRAIGHT UbSMALL LETTER STRAIGHT UbC
APITAL LETTER STRAIGHT U WITH STROKEbSMALL LETTER STRAIGHT U WITH STROKEbCAPITAL LETTER HA WIT
H DESCENDERbSMALL LETTER HA WITH DESCENDERbCAPITAL LIGATURE TE TSEbSMALL LIGATURE TE TSEbCAPITA
L LETTER CHE WITH DESCENDERbSMALL LETTER CHE WITH DESCENDERbCAPITAL LETTER CHE WITH VERTICAL ST
ROKEbSMALL LETTER CHE WITH VERTICAL STROKEbCAPITAL LETTER SHHAbSMALL LETTER SHHAbCAPITAL LETTE
R ABKHASIAN CHEbSMALL LETTER ABKHASIAN CHEbCAPITAL LETTER ABKHASIAN CHE WITH DESCENDERbSMALL LE
TTER ABKHASIAN CHE WITH DESCENDERbLETTER PALOCHKAbCAPITAL LETTER ZHE WITH BREVEbSMALL LETTER ZH
E WITH BREVEbCAPITAL LETTER KA WITH HOOKbSMALL LETTER KA WITH HOOKbCAPITAL LETTER EL WITH TAILb
SMALL LETTER EL WITH TAILbCAPITAL LETTER EN WITH HOOKbSMALL LETTER EN WITH HOOKbCAPITAL LETTE
R EN WITH TAILbSMALL LETTER EN WITH TAILbCAPITAL LETTER KHAKASSIAN CHEbSMALL LETTER KHAKASSIA
N CHEbCAPITAL LETTER EM WITH TAILbSMALL LETTER EM WITH TAILdPALOCHKAbCAPITAL LETTER A WITH BREV
EbSMALL LETTER A WITH BREVEbCAPITAL LETTER A WITH DIAERESISbSMALL LETTER A WITH DIAERESISbCAPIT
AL LIGATURE A IEbSMALL LIGATURE A IEbCAPITAL LETTER IE WITH BREVEbSMALL LETTER IE WITH BREVEbCA
PITAL LETTER SCHWAbSMALL LETTER SCHWAbCAPITAL LETTER SCHWA WITH DIAERESISbSMALL LETTER SCHWA WI
TH DIAERESISbCAPITAL LETTER ZHE WITH DIAERESISbSMALL LETTER ZHE WITH DIAERESISbCAPITAL LETTER Z
E WITH DIAERESISbSMALL LETTER ZE WITH DIAERESISbCAPITAL LETTER ABKHASIAN DZEbSMALL LETTER ABKHA
SIAN DZEbCAPITAL LETTER I WITH MACRONbSMALL LETTER I WITH MACRONbCAPITAL LETTER I WITH DIAERESI
SbSMALL LETTER I WITH DIAERESISbCAPITAL LETTER O WITH DIAERESISbSMALL LETTER O WITH DIAERESISbC
APITAL LETTER BARRED ObSMALL LETTER BARRED ObCAPITAL LETTER BARRED O WITH DIAERESISbSMALL LETTE
R BARRED O WITH DIAERESISbCAPITAL LETTER E WITH DIAERESISbSMALL LETTER E WITH DIAERESISbCAPITA
L LETTER U WITH MACRONbSMALL LETTER U WITH MACRONbCAPITAL LETTER U WITH DIAERESISbSMALL LETTE
R U WITH DIAERESISbCAPITAL LETTER U WITH DOUBLE ACUTEbSMALL LETTER U WITH DOUBLE ACUTEbCAPITA
L LETTER CHE WITH DIAERESISbSMALL LETTER CHE WITH DIAERESISbCAPITAL LETTER GHE WITH DESCENDERbS
MALL LETTER GHE WITH DESCENDERbCAPITAL LETTER YERU WITH DIAERESISbSMALL LETTER YERU WITH DIAERE
SISbCAPITAL LETTER GHE WITH STROKE AND HOOKbSMALL LETTER GHE WITH STROKE AND HOOKbCAPITAL LETTE
R HA WITH HOOKbSMALL LETTER HA WITH HOOKbCAPITAL LETTER HA WITH STROKEbSMALL LETTER HA WITH STR
OKEbCAPITAL LETTER KOMI DEbSMALL LETTER KOMI DEbCAPITAL LETTER KOMI DJEbSMALL LETTER KOMI DJEbC
APITAL LETTER KOMI ZJEbSMALL LETTER KOMI ZJEbCAPITAL LETTER KOMI DZJEbSMALL LETTER KOMI DZJEbCA
PITAL LETTER KOMI LJEbSMALL LETTER KOMI LJEbCAPITAL LETTER KOMI NJEbSMALL LETTER KOMI NJEbCAPIT
AL LETTER KOMI SJEbSMALL LETTER KOMI SJEbCAPITAL LETTER KOMI TJEbSMALL LETTER KOMI TJEbCAPITA
L LETTER REVERSED ZEbSMALL LETTER REVERSED ZEbCAPITAL LETTER EL WITH HOOKbSMALL LETTER EL WIT
H HOOKbCAPITAL LETTER LHAbSMALL LETTER LHAbCAPITAL LETTER RHAbSMALL LETTER RHAbCAPITAL LETTER Y
AEbSMALL LETTER YAEbCAPITAL LETTER QAbSMALL LETTER QAbCAPITAL LETTER WEbSMALL LETTER WEbCAPITA
L LETTER ALEUT KAbSMALL LETTER ALEUT KAbCAPITAL LETTER EL WITH MIDDLE HOOKbSMALL LETTER EL WIT
H MIDDLE HOOKbCAPITAL LETTER EN WITH MIDDLE HOOKbSMALL LETTER EN WITH MIDDLE HOOKbCAPITAL LETTE
R PE WITH DESCENDERbSMALL LETTER PE WITH DESCENDERbCAPITAL LETTER SHHA WITH DESCENDERbSMALL LET
TER SHHA WITH DESCENDERbCAPITAL LETTER EN WITH LEFT HOOKbSMALL LETTER EN WITH LEFT HOOKbCAPITA
L LETTER DZZHEbSMALL LETTER DZZHEbCAPITAL LETTER DCHEbSMALL LETTER DCHEbCAPITAL LETTER EL WIT
H DESCENDERbSMALL LETTER EL WITH DESCENDER@531aARMENIAN CAPITAL LETTER AYBdBENdGIMdDAdECHdZAdEH
dETdTOdZHEdINIdLIWNdXEHdCAdKENdHOdJAdGHADdCHEHdMENdYIdNOWdSHAdVOdCHAdPEHdJHEHdRAdSEHdVEWdTIWNdR
EHdCOdYIWNdPIWRdKEHdOHdFEH@559bMODIFIER LETTER LEFT HALF RINGbAPOSTROPHEbEMPHASIS MARKbEXCLAMAT
ION MARKbCOMMAbQUESTION MARKbABBREVIATION MARKbSMALL LETTER TURNED AYBdAYBdBENdGIMdDAdECHdZAdEH
dETdTOdZHEdINIdLIWNdXEHdCAdKENdHOdJAdGHADdCHEHdMENdYIdNOWdSHAdVOdCHAdPEHdJHEHdRAdSEHdVEWdTIWNdR
EHdCOdYIWNdPIWRdKEHdOHdFEHcLIGATURE ECH YIWNcLETTER YI WITH STROKEbFULL STOPbHYPHEN@58DaRIGHT-F
ACING ARMENIAN ETERNITY SIGNaLEFT-FACING ARMENIAN ETERNITY SIGNaARMENIAN DRAM SIGN@591aHEBREW A
CCENT ETNAHTAcSEGOLcSHALSHELETcZAQEF QATANdGADOLcTIPEHAcREVIAcZARQAcPASHTAcYETIVcTEVIRcGERESHdM
UQDAMcGERSHAYIMcQARNEY PARAcTELISHA GEDOLAcPAZERcATNAH HAFUKHcMUNAHcMAHAPAKHcMERKHAdKEFULAcDARG
AcQADMAcTELISHA QETANAcYERAH BEN YOMOcOLEcILUYcDEHIcZINORbMARK MASORA CIRCLEbPOINT SHEVAcHATA
F SEGOLdPATAHdQAMATScHIRIQcTSEREcSEGOLcPATAHcQAMATScHOLAMdHASER FOR VAVcQUBUTScDAGESH OR MAPIQc
METEGbPUNCTUATION MAQAFbPOINT RAFEbPUNCTUATION PASEQbPOINT SHIN DOTcSIN DOTbPUNCTUATION SOF PAS
UQbMARK UPPER DOTcLOWER DOTbPUNCTUATION NUN HAFUKHAbPOINT QAMATS QATAN@5D0bLETTER ALEFcBETcGIME
LcDALETcHEcVAVcZAYINcHETcTETcYODcFINAL KAFcKAFcLAMEDcFINAL MEMcMEMcFINAL NUNcNUNcSAMEKHcAYINcFI
NAL PEcPEcFINAL TSADIcTSADIcQOFcRESHcSHINcTAV@5EFbYOD TRIANGLEbLIGATURE YIDDISH DOUBLE VAVdVA
V YODdDOUBLE YODbPUNCTUATION GERESHcGERSHAYIM@600aARABIC NUMBER SIGNbSIGN SANAHbFOOTNOTE MARKER
bSIGN SAFHAcSAMVATbNUMBER MARK ABOVEaARABIC-INDIC CUBE ROOTbFOURTH ROOTaARABIC RAYaARABIC-INDI
C PER MILLE SIGNcTEN THOUSAND SIGNaAFGHANI SIGNaARABIC COMMAbDATE SEPARATORbPOETIC VERSE SIGNbS
IGN MISRAcSALLALLAHOU ALAYHE WASSALLAMcALAYHE ASSALLAMcRAHMATULLAH ALAYHEcRADI ALLAHOU ANHUcTAK
HALLUSbSMALL HIGH TAHdLIGATURE ALEF WITH LAM WITH YEHdZAINcFATHAcDAMMAcKASRAbSEMICOLONbLETTER M
ARK@61CaALMaARABIC END OF TEXT MARKbTRIPLE DOT PUNCTUATION MARKbQUESTION MARKbLETTER KASHMIRI Y
EHcHAMZAcALEF WITH MADDA ABOVEeHAMZA ABOVEcWAW WITH HAMZA ABOVEcALEF WITH HAMZA BELOWcYEH WIT
H HAMZA ABOVEcALEFcBEHcTEH MARBUTAdcTHEHcJEEMcHAHcKHAHcDALcTHALcREHcZAINcSEENcSHEENcSADcDADcTAH
cZAHcAINcGHAINcKEHEH WITH TWO DOTS ABOVEeTHREE DOTS BELOWcFARSI YEH WITH INVERTED VfTWO DOTS AB
OVEfTHREE DOTS ABOVEbTATWEELbLETTER FEHcQAFcKAFcLAMcMEEMcNOONcHEHcWAWcALEF MAKSURAcYEHbFATHATAN
bDAMMATANbKASRATANbFATHAbDAMMAbKASRAbSHADDAbSUKUNbMADDAH ABOVEbHAMZA ABOVEcBELOWbSUBSCRIPT ALEF
bINVERTED DAMMAbMARK NOON GHUNNAbZWARAKAYbVOWEL SIGN SMALL V ABOVEdINVERTED SMALL V ABOVEdDOT B
ELOWbREVERSED DAMMAbFATHA WITH TWO DOTSbWAVY HAMZA BELOWaARABIC-INDIC DIGIT ZEROcONEcTWOcTHREEc
FOURcFIVEcSIXcSEVENcEIGHTcNINEaARABIC PERCENT SIGNbDECIMAL SEPARATORbTHOUSANDS SEPARATORbFIVE P
OINTED STARbLETTER DOTLESS BEHdQAFcSUPERSCRIPT ALEFcALEF WASLAdWITH WAVY HAMZA ABOVEgBELOWcHIG
H HAMZAeALEFeWAWcU WITH HAMZA ABOVEcHIGH HAMZA YEHcTTEHcTTEHEHcBEEHcTEH WITH RINGeTHREE DOTS AB
OVE DOWNWARDScPEHcTEHEHcBEHEHcHAH WITH HAMZA ABOVEeTWO DOTS VERTICAL ABOVEcNYEHcDYEHcHAH WITH T
HREE DOTS ABOVEcTCHEHcTCHEHEHcDDALcDAL WITH RINGeDOT BELOWgAND SMALL TAHcDAHALcDDAHALcDULcDAL W
ITH THREE DOTS ABOVE DOWNWARDSeFOUR DOTS ABOVEcRREHcREH WITH SMALL VeRINGeDOT BELOWeSMALL V BEL
OWeDOT BELOW AND DOT ABOVEeTWO DOTS ABOVEcJEHcREH WITH FOUR DOTS ABOVEcSEEN WITH DOT BELOW AN
D DOT ABOVEeTHREE DOTS BELOWhAND THREE DOTS ABOVEcSAD WITH TWO DOTS BELOWeTHREE DOTS ABOVEcTA
H WITH THREE DOTS ABOVEcAIN WITH THREE DOTS ABOVEcDOTLESS FEHcFEH WITH DOT MOVED BELOWfBELOWcVE
HcFEH WITH THREE DOTS BELOWcPEHEHcQAF WITH DOT ABOVEeTHREE DOTS ABOVEcKEHEHcSWASH KAFcKAF WIT
H RINGeDOT ABOVEcNGcKAF WITH THREE DOTS BELOWcGAFdWITH RINGcNGOEHcGAF WITH TWO DOTS BELOWcGUEHc
GAF WITH THREE DOTS ABOVEcLAM WITH SMALL VeDOT ABOVEeTHREE DOTS ABOVEgBELOWcNOON WITH DOT BELOW
dGHUNNAcRNOONcNOON WITH RINGeTHREE DOTS ABOVEcHEH DOACHASHMEEcTCHEH WITH DOT ABOVEcHEH WITH YE
H ABOVEdGOALeWITH HAMZA ABOVEcTEH MARBUTA GOALcWAW WITH RINGcKIRGHIZ OEcOEcUcYUcKIRGHIZ YUcWA
W WITH TWO DOTS ABOVEcVEcFARSI YEHcYEH WITH TAILeSMALL VcWAW WITH DOT ABOVEcEcYEH WITH THREE DO
TS BELOWdBARREEeWITH HAMZA ABOVEbFULL STOPbLETTER AEbSMALL HIGH LIGATURE SAD WITH LAM WITH ALE
F MAKSURAeQAF WITH LAM WITH ALEF MAKSURAdMEEM INITIAL FORMdLAM ALEFdJEEMdTHREE DOTSdSEENbEND O
F AYAHbSTART OF RUB EL HIZBbSMALL HIGH ROUNDED ZEROdUPRIGHT RECTANGULAR ZEROdDOTLESS HEAD OF KH
AHdMEEM ISOLATED FORMcLOW SEENcHIGH MADDAcWAWcYEHcHIGH YEHdNOONbPLACE OF SAJDAHbEMPTY CENTRE LO
W STOPdHIGH STOPbROUNDED HIGH STOP WITH FILLED CENTREbSMALL LOW MEEMbLETTER DAL WITH INVERTED V
cREH WITH INVERTED VaEXTENDED ARABIC-INDIC DIGIT ZEROdONEdTWOdTHREEdFOURdFIVEdSIXdSEVENdEIGHTdN
INEaARABIC LETTER SHEEN WITH DOT BELOWcDAD WITH DOT BELOWcGHAIN WITH DOT BELOWbSIGN SINDHI AMPE
RSANDdPOSTPOSITION MENbLETTER HEH WITH INVERTED VaSYRIAC END OF PARAGRAPHbSUPRALINEAR FULL STOP
bSUBLINEAR FULL STOPbSUPRALINEAR COLONbSUBLINEAR COLONbHORIZONTAL COLONbCOLON SKEWED LEFTdRIGHT
bSUPRALINEAR COLON SKEWED LEFTbSUBLINEAR COLON SKEWED RIGHT@709eLEFTbCONTRACTIONbHARKLEAN OBELU
ScMETOBELUScASTERISCUS@70FbABBREVIATION MARKbLETTER ALAPHcSUPERSCRIPT ALAPHcBETHcGAMALdGARSHUNI
cDALATHcDOTLESS DALATH RISHcHEcWAWcZAINcHETHcTETHdGARSHUNIcYUDHdHEcKAPHcLAMADHcMIMcNUNcSEMKATHc
FINAL SEMKATHcEcPEcREVERSED PEcSADHEcQAPHcRISHcSHINcTAWcPERSIAN BHETHdGHAMALdDHALATHbPTHAHA ABO
VEcBELOWcDOTTEDbZQAPHA ABOVEcBELOWcDOTTEDbRBASA ABOVEcBELOWbDOTTED ZLAMA HORIZONTALdANGULARbHBA
SA ABOVEcBELOWbHBASA-ESASA DOTTEDbESASA ABOVEcBELOWbRWAHAbFEMININE DOTbQUSHSHAYAbRUKKAKHAbTWO V
ERTICAL DOTS ABOVEeBELOWbTHREE DOTS ABOVEdBELOWbOBLIQUE LINE ABOVEdBELOWbMUSICbBARREKH@74DbLETT
ER SOGDIAN ZHAINdKHAPHdFEaARABIC LETTER BEH WITH THREE DOTS HORIZONTALLY BELOWeDOT BELOW AND TH
REE DOTS ABOVEeTHREE DOTS POINTING UPWARDS BELOWjAND TWO DOTS ABOVEeTWO DOTS BELOW AND DOT ABOV
EeINVERTED SMALL V BELOWeSMALL VcHAH WITH TWO DOTS ABOVEeTHREE DOTS POINTING UPWARDS BELOWcDA
L WITH TWO DOTS VERTICALLY BELOW AND SMALL TAHeINVERTED SMALL V BELOWcREH WITH STROKEcSEEN WIT
H FOUR DOTS ABOVEcAIN WITH TWO DOTS ABOVEeTHREE DOTS POINTING DOWNWARDS ABOVEeTWO DOTS VERTICAL
LY ABOVEcFEH WITH TWO DOTS BELOWeTHREE DOTS POINTING UPWARDS BELOWcKEHEH WITH DOT ABOVEeTHREE D
OTS ABOVEgPOINTING UPWARDS BELOWcMEEM WITH DOT ABOVEfBELOWcNOON WITH TWO DOTS BELOWeSMALL TAHfV
cLAM WITH BARcREH WITH TWO DOTS VERTICALLY ABOVEeHAMZA ABOVEcSEEN WITH TWO DOTS VERTICALLY ABOV
EcHAH WITH SMALL ARABIC LETTER TAH BELOWiAND TWO DOTScSEEN WITH SMALL ARABIC LETTER TAH AND TW
O DOTScREH WITH SMALL ARABIC LETTER TAH AND TWO DOTScHAH WITH SMALL ARABIC LETTER TAH ABOVEcALE
F WITH EXTENDED ARABIC-INDIC DIGIT TWO ABOVEhTHREE ABOVEcFARSI YEH WITH EXTENDED ARABIC-INDIC D
IGIT TWO ABOVEiTHREE ABOVEiFOUR BELOWcWAW WITH EXTENDED ARABIC-INDIC DIGIT TWO ABOVEhTHREE ABOV
EcYEH BARREE WITH EXTENDED ARABIC-INDIC DIGIT TWO ABOVEiTHREE ABOVEcHAH WITH EXTENDED ARABIC-IN
DIC DIGIT FOUR BELOWcSEEN WITH EXTENDED ARABIC-INDIC DIGIT FOUR ABOVEeINVERTED VcKAF WITH TWO D
OTS ABOVEaTHAANA LETTER HAAcSHAVIYANIcNOONUcRAAcBAAcLHAVIYANIcKAAFUcALIFUcVAAVUcMEEMUcFAAFUcDHA
ALUcTHAAcLAAMUcGAAFUcGNAVIYANIcSEENUcDAVIYANIcZAVIYANIcTAVIYANIcYAAcPAVIYANIcJAVIYANIcCHAVIYANI
cTTAAcHHAAcKHAAcTHAALUcZAAcSHEENUcSAADHUcDAADHUcTOcZOcAINUcGHAINUcQAAFUcWAAVUbABAFILIbAABAAFILI
bIBIFILIbEEBEEFILIbUBUFILIbOOBOOFILIbEBEFILIbEYBEYFILIbOBOFILIbOABOAFILIbSUKUNbLETTER NAA@7C0aN
KO DIGIT ZEROcONEcTWOcTHREEcFOURcFIVEcSIXcSEVENcEIGHTcNINEbLETTER AcEEcIcEcUcOOcOcDAGBASINNAcNc
BAcPAcTAcJAcCHAcDAcRAcRRAcSAcGBAcFAcKAcLAcNA WOLOSOcMAcNYAcNAcHAcWAcYAcNYA WOLOSOcJONA JAdCHAdR
AbCOMBINING SHORT HIGH TONEdLOW TONEdRISING TONEcLONG DESCENDING TONEdHIGH TONEdLOW TONEdRISIN
G TONEcNASALIZATION MARKcDOUBLE DOT ABOVEbHIGH TONE APOSTROPHEbLOW TONE APOSTROPHEbSYMBOL OO DE
NNENcGBAKURUNENbCOMMAbEXCLAMATION MARKbLAJANYALAN@7FDbDANTAYALANbDOROME SIGNbTAMAN SIGNaSAMARIT
AN LETTER ALAFcBITcGAMANcDALATcIYcBAAcZENcITcTITcYUTcKAAFcLABATcMIMcNUNcSINGAATcINcFIcTSAADIYcQ
UFcRISHcSHANcTAAFbMARK INcIN-ALAFcOCCLUSIONcDAGESHbMODIFIER LETTER EPENTHETIC YUTbMARK EPENTHET
IC YUTbVOWEL SIGN LONG EdEdOVERLONG AAdLONG AAdAAdOVERLONG AdLONG AdAbMODIFIER LETTER SHORT AbV
OWEL SIGN SHORT AdLONG UdUbMODIFIER LETTER IbVOWEL SIGN LONG IdIdOdSUKUNbMARK NEQUDAA@830bPUNCT
UATION NEQUDAAcAFSAAQcANGEDcBAUcATMAAUcSHIYYAALAAbABBREVIATION MARKbPUNCTUATION MELODIC QITSAcZ
IQAAcQITSAcZAEFcTURUcARKAANUcSOF MASHFAATcANNAAU@840aMANDAIC LETTER HALQAcABcAGcADcAHcUSHENNAcA
ZcITcATTcAKSAcAKcALcAMcANcAScINcAPcASZcAQcARcASHcATcDUSHENNAcKADcAINbAFFRICATION MARKbVOCALIZAT
ION MARKbGEMINATION MARK@85EbPUNCTUATION@860aSYRIAC LETTER MALAYALAM NGAdJAdNYAdTTAdNNAdNNNAdBH
AdRAdLLAdLLLAdSSA@870aARABIC LETTER ALEF WITH ATTACHED FATHAfTOP RIGHT FATHAeRIGHT MIDDLE STROK
EeLEFT MIDDLE STROKEeATTACHED KASRAfBOTTOM RIGHT KASRAfROUND DOT ABOVEfRIGHT ROUND DOTfLEFT ROU
ND DOTfROUND DOT BELOWeDOT ABOVEeATTACHED TOP RIGHT FATHA AND DOT ABOVEeRIGHT MIDDLE STROKE AN
D DOT ABOVEeATTACHED BOTTOM RIGHT KASRA AND DOT ABOVEfTOP RIGHT FATHA AND LEFT RINGeRIGHT MIDDL
E STROKE AND LEFT RINGeATTACHED BOTTOM RIGHT KASRA AND LEFT RINGfRIGHT HAMZAfLEFT HAMZAbTATWEE
L WITH OVERSTRUCK HAMZAeWAWdTWO DOTS BELOWbLETTER THIN YEHbBASELINE ROUND DOTbRAISED ROUND DOTb
LETTER NOON WITH INVERTED SMALL VcHAH WITH INVERTED SMALL V BELOWcTAH WITH DOT BELOWeTHREE DOT
S BELOWcKEHEH WITH TWO DOTS VERTICALLY BELOWbVERTICAL TAIL@890bPOUND MARK ABOVEbPIASTRE MARK AB
OVE@898bSMALL HIGH WORD AL-JUZcLOW WORD ISHMAAMeIMAALAeTASHEELbMADDA WAAJIBbSUPERSCRIPT ALEF MO
KHASSASbDOUBLED MADDAbHALF MADDA OVER MADDAbLETTER BEH WITH SMALL V BELOWeHAMZA ABOVEcJEEM WIT
H TWO DOTS ABOVEcTAH WITH TWO DOTS ABOVEcFEH WITH DOT BELOW AND THREE DOTS ABOVEcQAF WITH DOT B
ELOWcLAM WITH DOUBLE BARcMEEM WITH THREE DOTS ABOVEcYEH WITH TWO DOTS BELOW AND HAMZA ABOVEiDO
T ABOVEcREH WITH LOOPcWAW WITH DOT WITHINcROHINGYA YEHcLOW ALEFcDAL WITH THREE DOTS BELOWcSAD W
ITH THREE DOTS BELOWcGAF WITH INVERTED STROKEcSTRAIGHT WAWcZAIN WITH INVERTED V ABOVEcAIN WIT
H THREE DOTS BELOWcKAF WITH DOT BELOWcQAF WITH DOT BELOW AND NO DOTS ABOVEcBEH WITH SMALL MEE
M ABOVEcPEH WITH SMALL MEEM ABOVEcTEH WITH SMALL TEH ABOVEcREH WITH SMALL NOON ABOVEcYEH WITH T
WO DOTS BELOW AND SMALL NOON ABOVEcAFRICAN FEHdQAFdNOONcPEH WITH SMALL VcTEH WITH SMALL VcTTE
H WITH SMALL VcTCHEH WITH SMALL VcKEHEH WITH SMALL VcGHAIN WITH THREE DOTS ABOVEcAFRICAN QAF WI
TH THREE DOTS ABOVEcJEEM WITH THREE DOTS ABOVEgBELOWcLAM WITH SMALL ARABIC LETTER TAH ABOVEcGRA
FbSMALL FARSI YEHcHIGH FARSI YEHdYEH BARREE WITH TWO DOTS BELOWdWORD SAHdZAHbLARGE ROUND DOT AB
OVEeBELOWbSUKUN BELOWbLARGE CIRCLE BELOWcROUND DOT INSIDE CIRCLE BELOWbSMALL LOW WAWcHIGH WOR
D AR-RUBdSADdAINdQAFdNOON WITH KASRAcLOW NOON WITH KASRAcHIGH WORD ATH-THALATHAeAS-SAJDAeAN-NIS
FeSAKTAeQIFeWAQFAdFOOTNOTE MARKERdSIGN SAFHAbDISPUTED END OF AYAHbTURNED DAMMA BELOWbCURLY FATH
AcDAMMAcKASRAcFATHATANcDAMMATANcKASRATANbTONE ONE DOT ABOVEcTWO DOTS ABOVEcLOOP ABOVEcONE DOT B
ELOWcTWO DOTS BELOWcLOOP BELOWbOPEN FATHATANcDAMMATANcKASRATANbSMALL HIGH WAWbFATHA WITH RINGdD
OT ABOVEbKASRA WITH DOT BELOWbLEFT ARROWHEAD ABOVEbRIGHT ARROWHEAD ABOVEbLEFT ARROWHEAD BELOWbR
IGHT ARROWHEAD BELOWbDOUBLE RIGHT ARROWHEAD ABOVEfWITH DOTbRIGHT ARROWHEAD ABOVE WITH DOTbDAMM
A WITH DOTbMARK SIDEWAYS NOON GHUNNAaDEVANAGARI SIGN INVERTED CANDRABINDUcCANDRABINDUcANUSVARAc
VISARGAbLETTER SHORT AcAcAAcIcIIcUcUUcVOCALIC RdLcCANDRA EcSHORT EcEcAIcCANDRA OcSHORT OcOcAUcK
AcKHAcGAcGHAcNGAcCAcCHAcJAcJHAcNYAcTTAcTTHAcDDAcDDHAcNNAcTAcTHAcDAcDHAcNAcNNNAcPAcPHAcBAcBHAcMA
cYAcRAcRRAcLAcLLAcLLLAcVAcSHAcSSAcSAcHAbVOWEL SIGN OEdOOEbSIGN NUKTAcAVAGRAHAbVOWEL SIGN AAdIdI
IdUdUUdVOCALIC ReRRdCANDRA EdSHORT EdEdAIdCANDRA OdSHORT OdOdAUbSIGN VIRAMAbVOWEL SIGN PRISHTHA
MATRA EdAWbOMbSTRESS SIGN UDATTAdANUDATTAbGRAVE ACCENTbACUTE ACCENTbVOWEL SIGN CANDRA LONG EdUE
dUUEbLETTER QAcKHHAcGHHAcZAcDDDHAcRHAcFAcYYAcVOCALIC RRdLLbVOWEL SIGN VOCALIC LeLLbDANDAbDOUBL
E DANDAbDIGIT ZEROcONEcTWOcTHREEcFOURcFIVEcSIXcSEVENcEIGHTcNINEbABBREVIATION SIGNbSIGN HIGH SPA
CING DOTbLETTER CANDRA AcOEcOOEcAWcUEcUUEcMARWARI DDAcZHAcHEAVY YAcGGAcJJAcGLOTTAL STOPcDDDAcBB
AaBENGALI ANJIbSIGN CANDRABINDUcANUSVARAcVISARGA@985bLETTER AcAAcIcIIcUcUUcVOCALIC RdL@98FcEcAI
@993cOcAUcKAcKHAcGAcGHAcNGAcCAcCHAcJAcJHAcNYAcTTAcTTHAcDDAcDDHAcNNAcTAcTHAcDAcDHAcNA@9AAcPAcPHA
cBAcBHAcMAcYAcRA@9B2cLA@9B6cSHAcSSAcSAcHA@9BCbSIGN NUKTAcAVAGRAHAbVOWEL SIGN AAdIdIIdUdUUdVOCAL
IC ReRR@9C7dEdAI@9CBdOdAUbSIGN VIRAMAbLETTER KHANDA TA@9D7bAU LENGTH MARK@9DCbLETTER RRAcRHA@9D
FcYYAcVOCALIC RRdLLbVOWEL SIGN VOCALIC LeLL@9E6bDIGIT ZEROcONEcTWOcTHREEcFOURcFIVEcSIXcSEVENcEI
GHTcNINEbLETTER RA WITH MIDDLE DIAGONALeLOWER DIAGONALbRUPEE MARKcSIGNbCURRENCY NUMERATOR ONEdT
WOdTHREEdFOURdONE LESS THAN THE DENOMINATORcDENOMINATOR SIXTEENbISSHARbGANDA MARKbLETTER VEDI
C ANUSVARAbABBREVIATION SIGNbSANDHI MARK@A01aGURMUKHI SIGN ADAK BINDIcBINDIcVISARGA@A05bLETTE
R AcAAcIcIIcUcUU@A0FcEEcAI@A13cOOcAUcKAcKHAcGAcGHAcNGAcCAcCHAcJAcJHAcNYAcTTAcTTHAcDDAcDDHAcNNAc
TAcTHAcDAcDHAcNA@A2AcPAcPHAcBAcBHAcMAcYAcRA@A32cLAcLLA@A35cVAcSHA@A38cSAcHA@A3CbSIGN NUKTA@A3Eb
VOWEL SIGN AAdIdIIdUdUU@A47dEEdAI@A4BdOOdAUbSIGN VIRAMA@A51cUDAAT@A59bLETTER KHHAcGHHAcZAcRRA@A
5EcFA@A66bDIGIT ZEROcONEcTWOcTHREEcFOURcFIVEcSIXcSEVENcEIGHTcNINEbTIPPIbADDAKbIRIbURAbEK ONKARb
SIGN YAKASHbABBREVIATION SIGN@A81aGUJARATI SIGN CANDRABINDUcANUSVARAcVISARGA@A85bLETTER AcAAcIc
IIcUcUUcVOCALIC RdLbVOWEL CANDRA E@A8FbLETTER EcAIbVOWEL CANDRA O@A93bLETTER OcAUcKAcKHAcGAcGHA
cNGAcCAcCHAcJAcJHAcNYAcTTAcTTHAcDDAcDDHAcNNAcTAcTHAcDAcDHAcNA@AAAcPAcPHAcBAcBHAcMAcYAcRA@AB2cLA
cLLA@AB5cVAcSHAcSSAcSAcHA@ABCbSIGN NUKTAcAVAGRAHAbVOWEL SIGN AAdIdIIdUdUUdVOCALIC ReRRdCANDRA E
@AC7dEdAIdCANDRA O@ACBdOdAUbSIGN VIRAMA@AD0bOM@AE0bLETTER VOCALIC RRdLLbVOWEL SIGN VOCALIC LeLL
@AE6bDIGIT ZEROcONEcTWOcTHREEcFOURcFIVEcSIXcSEVENcEIGHTcNINEbABBREVIATION SIGNbRUPEE SIGN@AF9bL
ETTER ZHAbSIGN SUKUNcSHADDAcMADDAHcTHREE-DOT NUKTA ABOVEcCIRCLE NUKTA ABOVEcTWO-CIRCLE NUKTA AB
OVE@B01aORIYA SIGN CANDRABINDUcANUSVARAcVISARGA@B05bLETTER AcAAcIcIIcUcUUcVOCALIC RdL@B0FcEcAI@
B13cOcAUcKAcKHAcGAcGHAcNGAcCAcCHAcJAcJHAcNYAcTTAcTTHAcDDAcDDHAcNNAcTAcTHAcDAcDHAcNA@B2AcPAcPHAc
BAcBHAcMAcYAcRA@B32cLAcLLA@B35cVAcSHAcSSAcSAcHA@B3CbSIGN NUKTAcAVAGRAHAbVOWEL SIGN AAdIdIIdUdUU
dVOCALIC ReRR@B47dEdAI@B4BdOdAUbSIGN VIRAMA@B55cOVERLINEbAI LENGTH MARKbAU LENGTH MARK@B5CbLETT
ER RRAcRHA@B5FcYYAcVOCALIC RRdLLbVOWEL SIGN VOCALIC LeLL@B66bDIGIT ZEROcONEcTWOcTHREEcFOURcFIVE
cSIXcSEVENcEIGHTcNINEbISSHARbLETTER WAbFRACTION ONE QUARTERdHALFcTHREE QUARTERScONE SIXTEENTHdE
IGHTHcTHREE SIXTEENTHS@B82aTAMIL SIGN ANUSVARAcVISARGA@B85bLETTER AcAAcIcIIcUcUU@B8EcEcEEcAI@B9
2cOcOOcAUcKA@B99cNGAcCA@B9CcJA@B9EcNYAcTTA@BA3cNNAcTA@BA8cNAcNNNAcPA@BAEcMAcYAcRAcRRAcLAcLLAcLL
LAcVAcSHAcSSAcSAcHA@BBEbVOWEL SIGN AAdIdIIdUdUU@BC6dEdEEdAI@BCAdOdOOdAUbSIGN VIRAMA@BD0bOM@BD7b
AU LENGTH MARK@BE6bDIGIT ZEROcONEcTWOcTHREEcFOURcFIVEcSIXcSEVENcEIGHTcNINEbNUMBER TENcONE HUNDR
EDdTHOUSANDbDAY SIGNbMONTH SIGNbYEAR SIGNbDEBIT SIGNbCREDIT SIGNbAS ABOVE SIGNbRUPEE SIGNbNUMBE
R SIGN@C00aTELUGU SIGN COMBINING CANDRABINDU ABOVEcCANDRABINDUcANUSVARAcVISARGAcCOMBINING ANUSV
ARA ABOVEbLETTER AcAAcIcIIcUcUUcVOCALIC RdL@C0EcEcEEcAI@C12cOcOOcAUcKAcKHAcGAcGHAcNGAcCAcCHAcJA
cJHAcNYAcTTAcTTHAcDDAcDDHAcNNAcTAcTHAcDAcDHAcNA@C2AcPAcPHAcBAcBHAcMAcYAcRAcRRAcLAcLLAcLLLAcVAcS
HAcSSAcSAcHA@C3CbSIGN NUKTAcAVAGRAHAbVOWEL SIGN AAdIdIIdUdUUdVOCALIC ReRR@C46dEdEEdAI@C4AdOdOOd
AUbSIGN VIRAMA@C55bLENGTH MARKbAI LENGTH MARK@C58bLETTER TSAcDZAcRRRA@C5DcNAKAARA POLLU@C60cVOC
ALIC RRdLLbVOWEL SIGN VOCALIC LeLL@C66bDIGIT ZEROcONEcTWOcTHREEcFOURcFIVEcSIXcSEVENcEIGHTcNINE@
C77bSIGN SIDDHAMbFRACTION DIGIT ZERO FOR ODD POWERS OF FOURdONE FOR ODD POWERS OF FOURdTWO FO
R ODD POWERS OF FOURdTHREE FOR ODD POWERS OF FOURdONE FOR EVEN POWERS OF FOURdTWO FOR EVEN POWE
RS OF FOURdTHREE FOR EVEN POWERS OF FOURbSIGN TUUMUaKANNADA SIGN SPACING CANDRABINDUcCANDRABIND
UcANUSVARAcVISARGAcSIDDHAMbLETTER AcAAcIcIIcUcUUcVOCALIC RdL@C8EcEcEEcAI@C92cOcOOcAUcKAcKHAcGAc
GHAcNGAcCAcCHAcJAcJHAcNYAcTTAcTTHAcDDAcDDHAcNNAcTAcTHAcDAcDHAcNA@CAAcPAcPHAcBAcBHAcMAcYAcRAcRRA
cLAcLLA@CB5cVAcSHAcSSAcSAcHA@CBCbSIGN NUKTAcAVAGRAHAbVOWEL SIGN AAdIdIIdUdUUdVOCALIC ReRR@CC6dE
dEEdAI@CCAdOdOOdAUbSIGN VIRAMA@CD5bLENGTH MARKbAI LENGTH MARK@CDDbLETTER NAKAARA POLLUcFA@CDEcL
LLA@CE0cVOCALIC RRdLLbVOWEL SIGN VOCALIC LeLL@CE6bDIGIT ZEROcONEcTWOcTHREEcFOURcFIVEcSIXcSEVENc
EIGHTcNINE@CF1bSIGN JIHVAMULIYAcUPADHMANIYA@D00aMALAYALAM SIGN COMBINING ANUSVARA ABOVEcCANDRAB
INDUcANUSVARAcVISARGAbLETTER VEDIC ANUSVARAcAcAAcIcIIcUcUUcVOCALIC RdL@D0EcEcEEcAI@D12cOcOOcAUc
KAcKHAcGAcGHAcNGAcCAcCHAcJAcJHAcNYAcTTAcTTHAcDDAcDDHAcNNAcTAcTHAcDAcDHAcNAcNNNAcPAcPHAcBAcBHAcM
AcYAcRAcRRAcLAcLLAcLLLAcVAcSHAcSSAcSAcHAcTTTAbSIGN VERTICAL BAR VIRAMAcCIRCULAR VIRAMAcAVAGRAHA
bVOWEL SIGN AAdIdIIdUdUUdVOCALIC ReRR@D46dEdEEdAI@D4AdOdOOdAUbSIGN VIRAMAbLETTER DOT REPHbSIG
N PARA@D54bLETTER CHILLU MdYdLLLbAU LENGTH MARKbFRACTION ONE ONE-HUNDRED-AND-SIXTIETHdFORTIETHc
THREE EIGHTIETHScONE TWENTIETHdTENTHcTHREE TWENTIETHScONE FIFTHbLETTER ARCHAIC IIcVOCALIC RRdLL
bVOWEL SIGN VOCALIC LeLL@D66bDIGIT ZEROcONEcTWOcTHREEcFOURcFIVEcSIXcSEVENcEIGHTcNINEbNUMBER TEN
cONE HUNDREDdTHOUSANDbFRACTION ONE QUARTERdHALFcTHREE QUARTERScONE SIXTEENTHdEIGHTHcTHREE SIXTE
ENTHSbDATE MARKbLETTER CHILLU NNdNdRRdLdLLdK@D81aSINHALA SIGN CANDRABINDUcANUSVARAYAcVISARGAYA@
D85bLETTER AYANNAcAAYANNAcAEYANNAcAEEYANNAcIYANNAcIIYANNAcUYANNAcUUYANNAcIRUYANNAcIRUUYANNAcILU
YANNAcILUUYANNAcEYANNAcEEYANNAcAIYANNAcOYANNAcOOYANNAcAUYANNA@D9AcALPAPRAANA KAYANNAcMAHAAPRAAN
A KAYANNAcALPAPRAANA GAYANNAcMAHAAPRAANA GAYANNAcKANTAJA NAASIKYAYAcSANYAKA GAYANNAcALPAPRAAN
A CAYANNAcMAHAAPRAANA CAYANNAcALPAPRAANA JAYANNAcMAHAAPRAANA JAYANNAcTAALUJA NAASIKYAYAdSANYOOG
A NAAKSIKYAYAcSANYAKA JAYANNAcALPAPRAANA TTAYANNAcMAHAAPRAANA TTAYANNAcALPAPRAANA DDAYANNAcMAHA
APRAANA DDAYANNAcMUURDHAJA NAYANNAcSANYAKA DDAYANNAcALPAPRAANA TAYANNAcMAHAAPRAANA TAYANNAcALPA
PRAANA DAYANNAcMAHAAPRAANA DAYANNAcDANTAJA NAYANNA@DB3cSANYAKA DAYANNAcALPAPRAANA PAYANNAcMAHAA
PRAANA PAYANNAcALPAPRAANA BAYANNAcMAHAAPRAANA BAYANNAcMAYANNAcAMBA BAYANNAcYAYANNAcRAYANNA@DBDc
DANTAJA LAYANNA@DC0cVAYANNAcTAALUJA SAYANNAcMUURDHAJA SAYANNAcDANTAJA SAYANNAcHAYANNAcMUURDHAJ
A LAYANNAcFAYANNA@DCAbSIGN AL-LAKUNA@DCFbVOWEL SIGN AELA-PILLAdKETTI AEDA-PILLAdDIGA AEDA-PILLA
dKETTI IS-PILLAdDIGA IS-PILLAdKETTI PAA-PILLA@DD6dDIGA PAA-PILLA@DD8dGAETTA-PILLAdKOMBUVAdDIG
A KOMBUVAdKOMBU DEKAdKOMBUVA HAA AELA-PILLAfDIGA AELA-PILLAfGAYANUKITTAdGAYANUKITTA@DE6bLITH DI
GIT ZEROdONEdTWOdTHREEdFOURdFIVEdSIXdSEVENdEIGHTdNINE@DF2bVOWEL SIGN DIGA GAETTA-PILLAeGAYANUKI
TTAbPUNCTUATION KUNDDALIYA@E01aTHAI CHARACTER KO KAIcKHO KHAIdKHUATdKHWAIdKHONdRAKHANGcNGO NGUc
CHO CHANdCHINGdCHANGcSO SOcCHO CHOEcYO YINGcDO CHADAcTO PATAKcTHO THANdNANGMONTHOdPHUTHAOcNO NE
NcDO DEKcTO TAOcTHO THUNGdTHAHANdTHONGcNO NUcBO BAIMAIcPO PLAcPHO PHUNGcFO FAcPHO PHANcFO FANcP
HO SAMPHAOcMO MAcYO YAKcRO RUAcRUcLO LINGcLUcWO WAENcSO SALAdRUSIdSUAcHO HIPcLO CHULAcO ANGcH
O NOKHUKcPAIYANNOIcSARA AcMAI HAN-AKATcSARA AAdAMdIdIIdUEdUEEdUdUUcPHINTHU@E3FbCURRENCY SYMBO
L BAHTbCHARACTER SARA EdAEdOdAI MAIMUANeMAIMALAIcLAKKHANGYAOcMAIYAMOKcMAITAIKHUcMAI EKdTHOdTRId
CHATTAWAcTHANTHAKHATcNIKHAHITcYAMAKKANcFONGMANbDIGIT ZEROcONEcTWOcTHREEcFOURcFIVEcSIXcSEVENcEIG
HTcNINEbCHARACTER ANGKHANKHUcKHOMUT@E81aLAO LETTER KOcKHO SUNG@E84dTAM@E86cPALI GHAcNGOcCOcPAL
I CHAcSO TAM@E8CcPALI JHAcNYOcPALI NYAdTTAdTTHAdDDAdDDHAdNNAcDOcTOcTHO SUNGdTAMcPALI DHAcNOcBOc
POcPHO SUNGcFO TAM@E9DdFONcPHO TAMcFO SUNG@E9FdFAYcPALI BHAcMOcYOcLO LING@EA3cRO@EA5cLO LOOT@EA
5d@EA7cWOcSANSKRIT SHAdSSAcSO SUNGcHO SUNGcPALI LLAcOcHO TAMbELLIPSISbVOWEL SIGN AdMAI KANdAAdA
MdIdIIdYdYYdUdUUbSIGN PALI VIRAMAbVOWEL SIGN MAI KONbSEMIVOWEL SIGN LOdNYO@EC0bVOWEL SIGN EdEId
OdAYdAI@EC6bKO LA@EC8bTONE MAI EKdTHOdTIdCATAWAbCANCELLATION MARKbNIGGAHITA@ED0bDIGIT ZEROcONEc
TWOcTHREEcFOURcFIVEcSIXcSEVENcEIGHTcNINE@EDCbHO NOcMObLETTER KHMU GOdNYO@F00aTIBETAN SYLLABLE O
MbMARK GTER YIG MGO TRUNCATED Af-UM RNAM BCAD MAgGTER TSHEG MAcINITIAL YIG MGO MDUN MAcCLOSIN
G YIG MGO SGAB MAcCARET YIG MGO PHUR SHAD MAcYIG MGO TSHEG SHAD MAcSBRUL SHADcBSKUR YIG MGOcBKA
- SHOG YIG MGOcINTERSYLLABIC TSHEGcDELIMITER TSHEG BSTARcSHADcNYIS SHADcTSHEG SHADcNYIS TSHEG S
HADcRIN CHEN SPUNGS SHADcRGYA GRAM SHADcCARET -DZUD RTAGS ME LONG CANcGTER TSHEGbLOGOTYPE SIG
N CHAD RTAGSdLHAG RTAGSbASTROLOGICAL SIGN SGRA GCAN -CHAR RTAGSd-KHYUD PAdSDONG TSHUGSbSIGN RDE
L DKAR GCIGeGNYISeGSUMdNAG GCIGeGNYISdDKAR RDEL NAGbDIGIT ZEROcONEcTWOcTHREEcFOURcFIVEcSIXcSEVE
NcEIGHTcNINEcHALF ONEdTWOdTHREEdFOURdFIVEdSIXdSEVENdEIGHTdNINEdZERObMARK BSDUS RTAGScNGAS BZUN
G NYI ZLAcCARET -DZUD RTAGS BZHI MIG CANcNGAS BZUNG SGOR RTAGScCHE MGOcTSA -PHRUcGUG RTAGS GYON
eGYAScANG KHANG GYONeGYASbSIGN YAR TSHEScMAR TSHESbLETTER KAcKHAcGAcGHAcNGAcCAcCHAcJA@F49cNYAcT
TAcTTHAcDDAcDDHAcNNAcTAcTHAcDAcDHAcNAcPAcPHAcBAcBHAcMAcTSAcTSHAcDZAcDZHAcWAcZHAcZAc-AcYAcRAcLAc
SHAcSSAcSAcHAcAcKSSAcFIXED-FORM RAcKKAcRRA@F71bVOWEL SIGN AAdIdIIdUdUUdVOCALIC ReRReLeLLdEdEEdO
dOObSIGN RJES SU NGA ROcRNAM BCADbVOWEL SIGN REVERSED IeIIbSIGN NYI ZLA NAA DAcSNA LDANbMARK HA
LANTAcPALUTAbSIGN LCI RTAGScYANG RTAGScLCE TSA CANcMCHU CANcGRU CAN RGYINGSdMED RGYINGScINVERTE
D MCHU CANbSUBJOINED SIGN LCE TSA CANdMCHU CANdINVERTED MCHU CANcLETTER KAdKHAdGAdGHAdNGAdCAdCH
AdJA@F99dNYAdTTAdTTHAdDDAdDDHAdNNAdTAdTHAdDAdDHAdNAdPAdPHAdBAdBHAdMAdTSAdTSHAdDZAdDZHAdWAdZHAdZ
Ad-AdYAdRAdLAdSHAdSSAdSAdHAdAdKSSAdFIXED-FORM WAeYAeRA@FBEbKU RU KHAeBZHI MIG CANbCANTILLATIO
N SIGN HEAVY BEATdLIGHT BEATdCANG TE-UdSBUB -CHALbSYMBOL DRIL BUcRDO RJEcPADMA GDANcRDO RJE RGY
A GRAMcPHUR PAcNOR BUeNYIS -KHYILeGSUM -KHYILeBZHI -KHYIL@FCEbSIGN RDEL NAG RDEL DKAReGSUMbMAR
K BSKA- SHOG GI MGO RGYAN@FD0cBKA- SHOG GI MGO RGYANcMNYAM YIG GI MGO RGYANcNYIS TSHEGcINITIA
L BRDA RNYING YIG MGO MDUN MAcCLOSING BRDA RNYING YIG MGO SGAB MAaRIGHT-FACING SVASTI SIGNaLEFT
-FACING SVASTI SIGNaRIGHT-FACING SVASTI SIGN WITH DOTSaLEFT-FACING SVASTI SIGN WITH DOTSaTIBETA
N MARK LEADING MCHAN RTAGScTRAILING MCHAN RTAGS@1000aMYANMAR LETTER KAcKHAcGAcGHAcNGAcCAcCHAcJA
cJHAcNYAcNNYAcTTAcTTHAcDDAcDDHAcNNAcTAcTHAcDAcDHAcNAcPAcPHAcBAcBHAcMAcYAcRAcLAcWAcSAcHAcLLAcAcS
HAN AcIcIIcUcUUcEcMON EcOcAUbVOWEL SIGN TALL AAdAAdIdIIdUdUUdEdAIdMON IIeOdE ABOVEbSIGN ANUSVAR
AcDOT BELOWcVISARGAcVIRAMAcASATbCONSONANT SIGN MEDIAL YAeRAeWAeHAbLETTER GREAT SAbDIGIT ZEROcON
EcTWOcTHREEcFOURcFIVEcSIXcSEVENcEIGHTcNINEbSIGN LITTLE SECTIONcSECTIONbSYMBOL LOCATIVEcCOMPLETE
DcAFOREMENTIONEDcGENITIVEbLETTER SHAcSSAcVOCALIC RdRRdLdLLbVOWEL SIGN VOCALIC ReRReLeLLbLETTE
R MON NGAdJHAdBBAdBBEbCONSONANT SIGN MON MEDIAL NAfMAfLAbLETTER SGAW KAREN SHAbVOWEL SIGN SGA
W KAREN EUbTONE MARK SGAW KAREN HATHIfKE PHObLETTER WESTERN PWO KAREN THAfPWAbVOWEL SIGN WESTER
N PWO KAREN EUgUEbSIGN WESTERN PWO KAREN TONE-1fTONE-2fTONE-3fTONE-4fTONE-5bLETTER EASTERN PW
O KAREN NNAfYWAfGHWAbVOWEL SIGN GEBA KAREN IdKAYAH OEeUeEEbLETTER SHAN KAdKHAdGAdCAdZAdNYAdDAdN
AdPHAdFAdBAdTHAdHAbCONSONANT SIGN SHAN MEDIAL WAbVOWEL SIGN SHAN AAeEfABOVEeFINAL YbSIGN SHAN T
ONE-2dTONE-3dTONE-5dTONE-6dCOUNCIL TONE-2eTONE-3eEMPHATIC TONEbLETTER RUMAI PALAUNG FAbSIGN RUM
AI PALAUNG TONE-5bSHAN DIGIT ZEROdONEdTWOdTHREEdFOURdFIVEdSIXdSEVENdEIGHTdNINEbSIGN KHAMTI TONE
-1dTONE-3bVOWEL SIGN AITON AeAIbSYMBOL SHAN ONEdEXCLAMATIONaGEORGIAN CAPITAL LETTER ANdBANdGANd
DONdENdVINdZENdTANdINdKANdLASdMANdNARdONdPARdZHARdRAEdSANdTARdUNdPHARdKHARdGHANdQARdSHINdCHINdC
ANdJILdCILdCHARdXANdJHANdHAEdHEdHIEdWEdHARdHOE@10C7dYN@10CDdAEN@10D0bLETTER ANcBANcGANcDONcENcV
INcZENcTANcINcKANcLAScMANcNARcONcPARcZHARcRAEcSANcTARcUNcPHARcKHARcGHANcQARcSHINcCHINcCANcJILcC
ILcCHARcXANcJHANcHAEcHEcHIEcWEcHARcHOEcFIcYNcELIFIcTURNED GANcAINbPARAGRAPH SEPARATORaMODIFIE
R LETTER GEORGIAN NARaGEORGIAN LETTER AENcHARD SIGNcLABIAL SIGNaHANGUL CHOSEONG KIYEOKcSSANGKIY
EOKcNIEUNcTIKEUTcSSANGTIKEUTcRIEULcMIEUMcPIEUPcSSANGPIEUPcSIOScSSANGSIOScIEUNGcCIEUCcSSANGCIEUC
cCHIEUCHcKHIEUKHcTHIEUTHcPHIEUPHcHIEUHcNIEUN-KIYEOKcSSANGNIEUNcNIEUN-TIKEUTcNIEUN-PIEUPcTIKEUT-
KIYEOKcRIEUL-NIEUNcSSANGRIEULcRIEUL-HIEUHcKAPYEOUNRIEULcMIEUM-PIEUPcKAPYEOUNMIEUMcPIEUP-KIYEOKc
PIEUP-NIEUNcPIEUP-TIKEUTcPIEUP-SIOScPIEUP-SIOS-KIYEOKcPIEUP-SIOS-TIKEUTcPIEUP-SIOS-PIEUPcPIEUP-
SSANGSIOScPIEUP-SIOS-CIEUCcPIEUP-CIEUCcPIEUP-CHIEUCHcPIEUP-THIEUTHcPIEUP-PHIEUPHcKAPYEOUNPIEUPc
KAPYEOUNSSANGPIEUPcSIOS-KIYEOKcSIOS-NIEUNcSIOS-TIKEUTcSIOS-RIEULcSIOS-MIEUMcSIOS-PIEUPcSIOS-PIE
UP-KIYEOKcSIOS-SSANGSIOScSIOS-IEUNGcSIOS-CIEUCcSIOS-CHIEUCHcSIOS-KHIEUKHcSIOS-THIEUTHcSIOS-PHIE
UPHcSIOS-HIEUHcCHITUEUMSIOScCHITUEUMSSANGSIOScCEONGCHIEUMSIOScCEONGCHIEUMSSANGSIOScPANSIOScIEUN
G-KIYEOKcIEUNG-TIKEUTcIEUNG-MIEUMcIEUNG-PIEUPcIEUNG-SIOScIEUNG-PANSIOScSSANGIEUNGcIEUNG-CIEUCcI
EUNG-CHIEUCHcIEUNG-THIEUTHcIEUNG-PHIEUPHcYESIEUNGcCIEUC-IEUNGcCHITUEUMCIEUCcCHITUEUMSSANGCIEUCc
CEONGCHIEUMCIEUCcCEONGCHIEUMSSANGCIEUCcCHIEUCH-KHIEUKHcCHIEUCH-HIEUHcCHITUEUMCHIEUCHcCEONGCHIEU
MCHIEUCHcPHIEUPH-PIEUPcKAPYEOUNPHIEUPHcSSANGHIEUHcYEORINHIEUHcKIYEOK-TIKEUTcNIEUN-SIOScNIEUN-CI
EUCcNIEUN-HIEUHcTIKEUT-RIEULcFILLERbJUNGSEONG FILLERcAcAEcYAcYAEcEOcEcYEOcYEcOcWAcWAEcOEcYOcUcW
EOcWEcWIcYUcEUcYIcIcA-OcA-UcYA-OcYA-YOcEO-OcEO-UcEO-EUcYEO-OcYEO-UcO-EOcO-EcO-YEcO-OcO-UcYO-YAc
YO-YAEcYO-YEOcYO-OcYO-IcU-AcU-AEcU-EO-EUcU-YEcU-UcYU-AcYU-EOcYU-EcYU-YEOcYU-YEcYU-UcYU-IcEU-UcE
U-EUcYI-UcI-AcI-YAcI-OcI-UcI-EUcI-ARAEAcARAEAcARAEA-EOcARAEA-UcARAEA-IcSSANGARAEAcA-EUcYA-UcYEO
-YAcO-YAcO-YAEbJONGSEONG KIYEOKcSSANGKIYEOKcKIYEOK-SIOScNIEUNcNIEUN-CIEUCcNIEUN-HIEUHcTIKEUTcRI
EULcRIEUL-KIYEOKcRIEUL-MIEUMcRIEUL-PIEUPcRIEUL-SIOScRIEUL-THIEUTHcRIEUL-PHIEUPHcRIEUL-HIEUHcMIE
UMcPIEUPcPIEUP-SIOScSIOScSSANGSIOScIEUNGcCIEUCcCHIEUCHcKHIEUKHcTHIEUTHcPHIEUPHcHIEUHcKIYEOK-RIE
ULcKIYEOK-SIOS-KIYEOKcNIEUN-KIYEOKcNIEUN-TIKEUTcNIEUN-SIOScNIEUN-PANSIOScNIEUN-THIEUTHcTIKEUT-K
IYEOKcTIKEUT-RIEULcRIEUL-KIYEOK-SIOScRIEUL-NIEUNcRIEUL-TIKEUTcRIEUL-TIKEUT-HIEUHcSSANGRIEULcRIE
UL-MIEUM-KIYEOKcRIEUL-MIEUM-SIOScRIEUL-PIEUP-SIOScRIEUL-PIEUP-HIEUHcRIEUL-KAPYEOUNPIEUPcRIEUL-S
SANGSIOScRIEUL-PANSIOScRIEUL-KHIEUKHcRIEUL-YEORINHIEUHcMIEUM-KIYEOKcMIEUM-RIEULcMIEUM-PIEUPcMIE
UM-SIOScMIEUM-SSANGSIOScMIEUM-PANSIOScMIEUM-CHIEUCHcMIEUM-HIEUHcKAPYEOUNMIEUMcPIEUP-RIEULcPIEUP
-PHIEUPHcPIEUP-HIEUHcKAPYEOUNPIEUPcSIOS-KIYEOKcSIOS-TIKEUTcSIOS-RIEULcSIOS-PIEUPcPANSIOScIEUNG-
KIYEOK@11ECcYESIEUNG-KIYEOKcIEUNG-SSANGKIYEOK@11EDcYESIEUNG-SSANGKIYEOKcSSANGIEUNG@11EEcSSANGYE
SIEUNGcIEUNG-KHIEUKH@11EFcYESIEUNG-KHIEUKHcYESIEUNGcYESIEUNG-SIOScYESIEUNG-PANSIOScPHIEUPH-PIEU
PcKAPYEOUNPHIEUPHcHIEUH-NIEUNcHIEUH-RIEULcHIEUH-MIEUMcHIEUH-PIEUPcYEORINHIEUHcKIYEOK-NIEUNcKIYE
OK-PIEUPcKIYEOK-CHIEUCHcKIYEOK-KHIEUKHcKIYEOK-HIEUHcSSANGNIEUNaETHIOPIC SYLLABLE HAcHUcHIcHAAcH
EEcHEcHOcHOAcLAcLUcLIcLAAcLEEcLEcLOcLWAcHHAcHHUcHHIcHHAAcHHEEcHHEcHHOcHHWAcMAcMUcMIcMAAcMEEcMEc
MOcMWAcSZAcSZUcSZIcSZAAcSZEEcSZEcSZOcSZWAcRAcRUcRIcRAAcREEcREcROcRWAcSAcSUcSIcSAAcSEEcSEcSOcSWA
cSHAcSHUcSHIcSHAAcSHEEcSHEcSHOcSHWAcQAcQUcQIcQAAcQEEcQEcQOcQOAcQWA@124AcQWIcQWAAcQWEEcQWE@1250c
QHAcQHUcQHIcQHAAcQHEEcQHEcQHO@1258cQHWA@125AcQHWIcQHWAAcQHWEEcQHWE@1260cBAcBUcBIcBAAcBEEcBEcBOc
BWAcVAcVUcVIcVAAcVEEcVEcVOcVWAcTAcTUcTIcTAAcTEEcTEcTOcTWAcCAcCUcCIcCAAcCEEcCEcCOcCWAcXAcXUcXIcX
AAcXEEcXEcXOcXOAcXWA@128AcXWIcXWAAcXWEEcXWE@1290cNAcNUcNIcNAAcNEEcNEcNOcNWAcNYAcNYUcNYIcNYAAcNY
EEcNYEcNYOcNYWAcGLOTTAL AdUdIdAAdEEdEdOdWAcKAcKUcKIcKAAcKEEcKEcKOcKOAcKWA@12B2cKWIcKWAAcKWEEcKW
E@12B8cKXAcKXUcKXIcKXAAcKXEEcKXEcKXO@12C0cKXWA@12C2cKXWIcKXWAAcKXWEEcKXWE@12C8cWAcWUcWIcWAAcWEE
cWEcWOcWOAcPHARYNGEAL AdUdIdAAdEEdEdO@12D8cZAcZUcZIcZAAcZEEcZEcZOcZWAcZHAcZHUcZHIcZHAAcZHEEcZHE
cZHOcZHWAcYAcYUcYIcYAAcYEEcYEcYOcYOAcDAcDUcDIcDAAcDEEcDEcDOcDWAcDDAcDDUcDDIcDDAAcDDEEcDDEcDDOcD
DWAcJAcJUcJIcJAAcJEEcJEcJOcJWAcGAcGUcGIcGAAcGEEcGEcGOcGOAcGWA@1312cGWIcGWAAcGWEEcGWE@1318cGGAcG
GUcGGIcGGAAcGGEEcGGEcGGOcGGWAAcTHAcTHUcTHIcTHAAcTHEEcTHEcTHOcTHWAcCHAcCHUcCHIcCHAAcCHEEcCHEcCHO
cCHWAcPHAcPHUcPHIcPHAAcPHEEcPHEcPHOcPHWAcTSAcTSUcTSIcTSAAcTSEEcTSEcTSOcTSWAcTZAcTZUcTZIcTZAAcTZ
EEcTZEcTZOcTZOAcFAcFUcFIcFAAcFEEcFEcFOcFWAcPAcPUcPIcPAAcPEEcPEcPOcPWAcRYAcMYAcFYA@135DbCOMBININ
G GEMINATION AND VOWEL LENGTH MARKcVOWEL LENGTH MARKcGEMINATION MARKbSECTION MARKbWORDSPACEbFUL
L STOPbCOMMAbSEMICOLONbCOLONbPREFACE COLONbQUESTION MARKbPARAGRAPH SEPARATORbDIGIT ONEcTWOcTHRE
EcFOURcFIVEcSIXcSEVENcEIGHTcNINEbNUMBER TENcTWENTYcTHIRTYcFORTYcFIFTYcSIXTYcSEVENTYcEIGHTYcNINE
TYcHUNDREDcTEN THOUSAND@1380bSYLLABLE SEBATBEIT MWAcMWIcMWEEcMWEcSEBATBEIT BWAcBWIcBWEEcBWEcSEB
ATBEIT FWAcFWIcFWEEcFWEcSEBATBEIT PWAcPWIcPWEEcPWEbTONAL MARK YIZETdDERETdRIKRIKdSHORT RIKRIKdD
IFATdKENATdCHIRETdHIDETdDERET-HIDETdKURT@13A0aCHEROKEE LETTER AcEcIcOcUcVcGAcKAcGEcGIcGOcGUcGVc
HAcHEcHIcHOcHUcHVcLAcLEcLIcLOcLUcLVcMAcMEcMIcMOcMUcNAcHNAcNAHcNEcNIcNOcNUcNVcQUAcQUEcQUIcQUOcQU
UcQUVcSAcScSEcSIcSOcSUcSVcDAcTAcDEcTEcDIcTIcDOcDUcDVcDLAcTLAcTLEcTLIcTLOcTLUcTLVcTSAcTSEcTSIcTS
OcTSUcTSVcWAcWEcWIcWOcWUcWVcYAcYEcYIcYOcYUcYVcMV@13F8bSMALL LETTER YEdYIdYOdYUdYVdMV@1400aCANAD
IAN SYLLABICS HYPHENcEcAAIcIcIIcOcOOcY-CREE OOcCARRIER EEdIcAcAAcWEcWEST-CREE WEcWIcWEST-CREE W
IcWIIcWEST-CREE WIIcWOcWEST-CREE WOcWOOcWEST-CREE WOOcNASKAPI WOOcWAcWEST-CREE WAcWAAcWEST-CRE
E WAAcNASKAPI WAAcAIcY-CREE WcGLOTTAL STOPcFINAL ACUTEdGRAVEdBOTTOM HALF RINGdTOP HALF RINGdRIG
HT HALF RINGdRINGdDOUBLE ACUTEeSHORT VERTICAL STROKESdMIDDLE DOTdSHORT HORIZONTAL STROKEdPLUSdD
OWN TACKcENcINcONcANcPEcPAAIcPIcPIIcPOcPOOcY-CREE POOcCARRIER HEEdHIcPAcPAAcPWEcWEST-CREE PWEcP
WIcWEST-CREE PWIcPWIIcWEST-CREE PWIIcPWOcWEST-CREE PWOcPWOOcWEST-CREE PWOOcPWAcWEST-CREE PWAcPW
AAcWEST-CREE PWAAcY-CREE PWAAcPcWEST-CREE PcCARRIER HcTEcTAAIcTIcTIIcTOcTOOcY-CREE TOOcCARRIE
R DEEdDIcTAcTAAcTWEcWEST-CREE TWEcTWIcWEST-CREE TWIcTWIIcWEST-CREE TWIIcTWOcWEST-CREE TWOcTWOOc
WEST-CREE TWOOcTWAcWEST-CREE TWAcTWAAcWEST-CREE TWAAcNASKAPI TWAAcTcTTEcTTIcTTOcTTAcKEcKAAIcKIc
KIIcKOcKOOcY-CREE KOOcKAcKAAcKWEcWEST-CREE KWEcKWIcWEST-CREE KWIcKWIIcWEST-CREE KWIIcKWOcWEST-C
REE KWOcKWOOcWEST-CREE KWOOcKWAcWEST-CREE KWAcKWAAcWEST-CREE KWAAcNASKAPI KWAAcKcKWcSOUTH-SLAVE
Y KEHdKIHdKOHdKAHcCEcCAAIcCIcCIIcCOcCOOcY-CREE COOcCAcCAAcCWEcWEST-CREE CWEcCWIcWEST-CREE CWIcC
WIIcWEST-CREE CWIIcCWOcWEST-CREE CWOcCWOOcWEST-CREE CWOOcCWAcWEST-CREE CWAcCWAAcWEST-CREE CWAAc
NASKAPI CWAAcCcSAYISI THcMEcMAAIcMIcMIIcMOcMOOcY-CREE MOOcMAcMAAcMWEcWEST-CREE MWEcMWIcWEST-CRE
E MWIcMWIIcWEST-CREE MWIIcMWOcWEST-CREE MWOcMWOOcWEST-CREE MWOOcMWAcWEST-CREE MWAcMWAAcWEST-CRE
E MWAAcNASKAPI MWAAcMcWEST-CREE McMHcATHAPASCAN McSAYISI McNEcNAAIcNIcNIIcNOcNOOcY-CREE NOOcNAc
NAAcNWEcWEST-CREE NWEcNWAcWEST-CREE NWAcNWAAcWEST-CREE NWAAcNASKAPI NWAAcNcCARRIER NGcNHcLEcLAA
IcLIcLIIcLOcLOOcY-CREE LOOcLAcLAAcLWEcWEST-CREE LWEcLWIcWEST-CREE LWIcLWIIcWEST-CREE LWIIcLWOcW
EST-CREE LWOcLWOOcWEST-CREE LWOOcLWAcWEST-CREE LWAcLWAAcWEST-CREE LWAAcLcWEST-CREE LcMEDIAL LcS
EcSAAIcSIcSIIcSOcSOOcY-CREE SOOcSAcSAAcSWEcWEST-CREE SWEcSWIcWEST-CREE SWIcSWIIcWEST-CREE SWIIc
SWOcWEST-CREE SWOcSWOOcWEST-CREE SWOOcSWAcWEST-CREE SWAcSWAAcWEST-CREE SWAAcNASKAPI SWAAcScATHA
PASCAN ScSWcBLACKFOOT ScMOOSE-CREE SKcNASKAPI SKWdS-WdSPWAdSTWAdSKWAdSCWAcSHEcSHIcSHIIcSHOcSHOO
cSHAcSHAAcSHWEcWEST-CREE SHWEcSHWIcWEST-CREE SHWIcSHWIIcWEST-CREE SHWIIcSHWOcWEST-CREE SHWOcSHW
OOcWEST-CREE SHWOOcSHWAcWEST-CREE SHWAcSHWAAcWEST-CREE SHWAAcSHcYEcYAAIcYIcYIIcYOcYOOcY-CREE YO
OcYAcYAAcYWEcWEST-CREE YWEcYWIcWEST-CREE YWIcYWIIcWEST-CREE YWIIcYWOcWEST-CREE YWOcYWOOcWEST-CR
EE YWOOcYWAcWEST-CREE YWAcYWAAcWEST-CREE YWAAcNASKAPI YWAAcYcBIBLE-CREE YcWEST-CREE YcSAYISI YI
cREcR-CREE REcWEST-CREE LEcRAAIcRIcRIIcROcROOcWEST-CREE LOcRAcRAAcWEST-CREE LAcRWAAcWEST-CREE R
WAAcRcWEST-CREE RcMEDIAL RcFEcFAAIcFIcFIIcFOcFOOcFAcFAAcFWAAcWEST-CREE FWAAcFcTHEcN-CREE THEcTH
IcN-CREE THIcTHIIcN-CREE THIIcTHOcTHOOcTHAcTHAAcTHWAAcWEST-CREE THWAAcTHcTTHEcTTHIcTTHOcTTHAcTT
HcTYEcTYIcTYOcTYAcNUNAVIK HEdHIdHIIdHOdHOOdHAdHAAdHcNUNAVUT HcHKcQAAIcQIcQIIcQOcQOOcQAcQAAcQcTL
HEcTLHIcTLHOcTLHAcWEST-CREE REdRIdROdRAcNGAAIcNGIcNGIIcNGOcNGOOcNGAcNGAAcNGcNNGcSAYISI SHEdSHId
SHOdSHAcWOODS-CREE THEdTHIdTHOdTHAdTHcLHIcLHIIcLHOcLHOOcLHAcLHAAcLHcTH-CREE THEdTHIdTHIIdTHOdTH
OOdTHAdTHAAdTHcAIVILIK BcBLACKFOOT EdIdOdAdWEdWIdWOdWAdNEdNIdNOdNAdKEdKIdKOdKAcSAYISI HEdHIdHOd
HAcCARRIER GHUdGHOdGHEdGHEEdGHIdGHAdRUdROdREdREEdRIdRAdWUdWOdWEdWEEdWIdWAdHWUdHWOdHWEdHWEEdHWId
HWAdTHUdTHOdTHEdTHEEdTHIdTHAdTTUdTTOdTTEdTTEEdTTIdTTAdPUdPOdPEdPEEdPIdPAdPdGUdGOdGEdGEEdGIdGAdK
HUdKHOdKHEdKHEEdKHIdKHAdKKUdKKOdKKEdKKEEdKKIdKKAdKKdNUdNOdNEdNEEdNIdNAdMUdMOdMEdMEEdMIdMAdYUdYO
dYEdYEEdYIdYAdJUcSAYISI JUcCARRIER JOdJEdJEEdJIcSAYISI JIcCARRIER JAdJJUdJJOdJJEdJJEEdJJIdJJAdL
UdLOdLEdLEEdLIdLAdDLUdDLOdDLEdDLEEdDLIdDLAdLHUdLHOdLHEdLHEEdLHIdLHAdTLHUdTLHOdTLHEdTLHEEdTLHIdT
LHAdTLUdTLOdTLEdTLEEdTLIdTLAdZUdZOdZEdZEEdZIdZAdZdINITIAL ZdDZUdDZOdDZEdDZEEdDZIdDZAdSUdSOdSEdS
EEdSIdSAdSHUdSHOdSHEdSHEEdSHIdSHAdSHdTSUdTSOdTSEdTSEEdTSIdTSAdCHUdCHOdCHEdCHEEdCHIdCHAdTTSUdTTS
OdTTSEdTTSEEdTTSIdTTSAcCHI SIGNcFULL STOPcQAIcNGAIcNNGIcNNGIIcNNGOcNNGOOcNNGAcNNGAAcWOODS-CRE
E THWEEdTHWIdTHWIIdTHWOdTHWOOdTHWAdTHWAAdFINAL THcBLACKFOOT WaOGHAM SPACE MARKbLETTER BEITHcLUI
ScFEARNcSAILcNIONcUATHcDAIRcTINNEcCOLLcCEIRTcMUINcGORTcNGEADALcSTRAIFcRUIScAILMcONNcURcEADHADHc
IODHADHcEABHADHcORcUILLEANNcIFINcEAMHANCHOLLcPEITHbFEATHER MARKbREVERSED FEATHER MARK@16A0aRUNI
C LETTER FEHU FEOH FE FcVcURUZ UR UcYRcYcWcTHURISAZ THURS THORNcETHcANSUZ AcOS OcAC AcAESCcLONG
-BRANCH-OSS OcSHORT-TWIG-OSS OcOcOEcONcRAIDO RAD REID RcKAUNAcCENcKAUN KcGcENGcGEBO GYFU GcGARc
WUNJO WYNN WcHAGLAZ HcHAEGL HcLONG-BRANCH-HAGALL HcSHORT-TWIG-HAGALL HcNAUDIZ NYD NAUD NcSHORT-
TWIG-NAUD NcDOTTED-NcISAZ IS ISS IcEcJERAN JcGERcLONG-BRANCH-AR AEcSHORT-TWIG-AR AcIWAZ EOHcPER
THO PEORTH PcALGIZ EOLHXcSOWILO ScSIGEL LONG-BRANCH-SOL ScSHORT-TWIG-SOL ScCcZcTIWAZ TIR TYR Tc
SHORT-TWIG-TYR TcDcBERKANAN BEORC BJARKAN BcSHORT-TWIG-BJARKAN BcDOTTED-PcOPEN-PcEHWAZ EH EcMAN
NAZ MAN McLONG-BRANCH-MADR McSHORT-TWIG-MADR McLAUKAZ LAGU LOGR LcDOTTED-LcINGWAZcINGcDAGAZ DAE
G DcOTHALAN ETHEL OcEARcIORcCWEORTHcCALCcCEALCcSTANcLONG-BRANCH-YRcSHORT-TWIG-YRcICELANDIC-YRcQ
cXbSINGLE PUNCTUATIONbMULTIPLE PUNCTUATIONbCROSS PUNCTUATIONbARLAUG SYMBOLbTVIMADUR SYMBOLbBELG
THOR SYMBOLbLETTER KcSHcOOcFRANKS CASKET OSeISeEHeACeAESC@1700aTAGALOG LETTER AcIcUcKAcGAcNGAcT
AcDAcNAcPAcBAcMAcYAcRAcLAcWAcSAcHAbVOWEL SIGN IdUbSIGN VIRAMAcPAMUDPOD@171FbLETTER ARCHAIC RAaH
ANUNOO LETTER AcIcUcKAcGAcNGAcTAcDAcNAcPAcBAcMAcYAcRAcLAcWAcSAcHAbVOWEL SIGN IdUbSIGN PAMUDPODa
PHILIPPINE SINGLE PUNCTUATIONbDOUBLE PUNCTUATION@1740aBUHID LETTER AcIcUcKAcGAcNGAcTAcDAcNAcPAc
BAcMAcYAcRAcLAcWAcSAcHAbVOWEL SIGN IdU@1760aTAGBANWA LETTER AcIcUcKAcGAcNGAcTAcDAcNAcPAcBAcMAcY
A@176EcLAcWAcSA@1772bVOWEL SIGN IdU@1780aKHMER LETTER KAcKHAcKOcKHOcNGOcCAcCHAcCOcCHOcNYOcDAcTT
HAcDOcTTHOcNNOcTAcTHAcTOcTHOcNOcBAcPHAcPOcPHOcMOcYOcROcLOcVOcSHAcSSOcSAcHAcLAcQAbINDEPENDENT VO
WEL QAQdQAAdQIdQIIdQUdQUKdQUUdQUUVdRYdRYYdLYdLYYdQEdQAIdQOO TYPE ONEfTWOdQAUbVOWEL INHERENT AQd
AAcSIGN AAdIdIIdYdYYdUdUUdUAdOEdYAdIEdEdAEdAIdOOdAUbSIGN NIKAHITcREAHMUKcYUUKALEAPINTUcMUUSIKAT
OANcTRIISAPcBANTOCcROBATcTOANDAKHIATcKAKABATcAHSDAcSAMYOK SANNYAcVIRIAMcCOENGcBATHAMASATcKHANcB
ARIYOOSANcCAMNUC PII KUUHcLEK TOOcBEYYALcPHNAEK MUANcKOOMUUTbCURRENCY SYMBOL RIELbSIGN AVAKRAHA
SANYAcATTHACAN@17E0bDIGIT ZEROcONEcTWOcTHREEcFOURcFIVEcSIXcSEVENcEIGHTcNINE@17F0bSYMBOL LEK ATT
AK SONeMUOYePIIeBEIeBUONePRAMePRAM-MUOYePRAM-PIIePRAM-BEIePRAM-BUON@1800aMONGOLIAN BIRGAbELLIPS
ISbCOMMAbFULL STOPbCOLONbFOUR DOTSbTODO SOFT HYPHENbSIBE SYLLABLE BOUNDARY MARKERbMANCHU COMMAc
FULL STOPbNIRUGUbFREE VARIATION SELECTOR ONE@180BaFVS1aMONGOLIAN FREE VARIATION SELECTOR TWO@18
0CaFVS2aMONGOLIAN FREE VARIATION SELECTOR THREE@180DaFVS3aMONGOLIAN VOWEL SEPARATOR@180EaMVSaMO
NGOLIAN FREE VARIATION SELECTOR FOUR@180FaFVS4aMONGOLIAN DIGIT ZEROcONEcTWOcTHREEcFOURcFIVEcSIX
cSEVENcEIGHTcNINE@1820bLETTER AcEcIcOcUcOEcUEcEEcNAcANGcBAcPAcQAcGAcMAcLAcSAcSHAcTAcDAcCHAcJAcY
AcRAcWAcFAcKAcKHAcTSAcZAcHAAcZRAcLHAcZHIcCHIcTODO LONG VOWEL SIGNdEdIdOdUdOEdUEdANGdBAdPAdQAdGA
dMAdTAdDAdCHAdJAdTSAdYAdWAdKAdGAAdHAAdJIAdNIAdDZAcSIBE EdIdIYdUEdUdANGdKAdGAdHAdPAdSHAdTAdDAdJA
dFAdGAAdHAAdTSAdZAdRAAdCHAdZHAcMANCHU IdKAdRAdFAdZHAcCHA WITH TWO DOTS@1880cALI GALI ANUSVARA O
NEeVISARGA ONEeDAMARUeUBADAMAeINVERTED UBADAMAeBALUDAeTHREE BALUDAeAeIeKAeNGAeCAeTTAeTTHAeDDAeN
NAeTAeDAePAePHAeSSAeZHAeZAeAHcTODO ALI GALI TAfZHAcMANCHU ALI GALI GHAfNGAfCAfJHAfTTAfDDHAfTAfD
HAfSSAfCYAfZHAfZAcALI GALI HALF UfYAcMANCHU ALI GALI BHAcALI GALI DAGALGAcMANCHU ALI GALI LHA@1
8B0aCANADIAN SYLLABICS OYcAYcAAYcWAYcPOYcPAYcPWOYcTAYcKAYcKWAYcMAYcNOYcNAYcLAYcSOYcSAYcSHOYcSHA
YcSHWOYcYOYcYAYcRAYcNWIcOJIBWAY NWIcNWIIcOJIBWAY NWIIcNWOcOJIBWAY NWOcNWOOcOJIBWAY NWOOcRWEEcRW
IcRWIIcRWOcRWOOcRWAcOJIBWAY PdTdKdCdMdNdSdSHcEASTERN WcWESTERN WcFINAL SMALL RINGdRAISED DOTcR-
CREE RWEcWEST-CREE LOOdLAAcTHWEcTHWAcTTHWEcTTHOOcTTHAAcTLHWEcTLHOOcSAYISI SHWEdSHOOdHOOcCARRIE
R GWUdDENE GEEdGAAdGWAcSAYISI JUUcCARRIER JWAcBEAVER DENE LeRcCARRIER DENTAL S@1900aLIMBU VOWEL
-CARRIER LETTERbLETTER KAcKHAcGAcGHAcNGAcCAcCHAcJAcJHAcYANcTAcTHAcDAcDHAcNAcPAcPHAcBAcBHAcMAcYA
cRAcLAcWAcSHAcSSAcSAcHAcGYANcTRA@1920bVOWEL SIGN AdIdUdEEdAIdOOdAUdEdObSUBJOINED LETTER YAdRAdW
A@1930bSMALL LETTER KAdNGAdANUSVARAdTAdNAdPAdMAdRAdLAbSIGN MUKPHRENGcKEMPHRENGcSA-I@1940cLOO@19
44bEXCLAMATION MARKbQUESTION MARKbDIGIT ZEROcONEcTWOcTHREEcFOURcFIVEcSIXcSEVENcEIGHTcNINEaTAI L
E LETTER KAdXAdNGAdTSAdSAdYAdTAdTHAdLAdPAdPHAdMAdFAdVAdHAdQAdKHAdTSHAdNAdAdIdEEdEHdUdOOdOdUEdEd
AUEdAI@1970dTONE-2dTONE-3dTONE-4dTONE-5dTONE-6@1980aNEW TAI LUE LETTER HIGH QAeLOW QAeHIGH KAfX
AfNGAeLOW KAfXAfNGAeHIGH TSAfSAfYAeLOW TSAfSAfYAeHIGH TAfTHAfNAeLOW TAfTHAfNAeHIGH PAfPHAfMAeLO
W PAfPHAfMAeHIGH FAfVAfLAeLOW FAfVAfLAeHIGH HAfDAfBAeLOW HAfDAfBAeHIGH KVAfXVAeLOW KVAfXVAeHIG
H SUAeLOW SUA@19B0dVOWEL SIGN VOWEL SHORTENERfAAfIIfUfUUfEfAEfOfOAfUEfAYfAAYfUYfOYfOAYfUEYfIYdL
ETTER FINAL VfNGfNfMfKfDfBdTONE MARK-1eMARK-2@19D0dDIGIT ZEROeONEeTWOeTHREEeFOUReFIVEeSIXeSEVEN
eEIGHTeNINEdTHAM DIGIT ONE@19DEdSIGN LAEeLAEVaKHMER SYMBOL PATHAMASATcMUOY KOETcPII KOETcBEI KO
ETcBUON KOETcPRAM KOETcPRAM-MUOY KOETcPRAM-PII KOETcPRAM-BEI KOETcPRAM-BUON KOETcDAP KOETcDAP-M
UOY KOETcDAP-PII KOETcDAP-BEI KOETcDAP-BUON KOETcDAP-PRAM KOETcTUTEYASATcMUOY ROCcPII ROCcBEI R
OCcBUON ROCcPRAM ROCcPRAM-MUOY ROCcPRAM-PII ROCcPRAM-BEI ROCcPRAM-BUON ROCcDAP ROCcDAP-MUOY ROC
cDAP-PII ROCcDAP-BEI ROCcDAP-BUON ROCcDAP-PRAM ROCaBUGINESE LETTER KAcGAcNGAcNGKAcPAcBAcMAcMPAc
TAcDAcNAcNRAcCAcJAcNYAcNYCAcYAcRAcLAcVAcSAcAcHAbVOWEL SIGN IdUdEdOdAE@1A1EbPALLAWAbEND OF SECTI
ONaTAI THAM LETTER HIGH KAeKHAeKXAdLOW KAeKXAeKHAdNGAdHIGH CAeCHAdLOW CAeSAeCHAdNYAdRATAdHIGH R
ATHAdDAdLOW RATHAdRANAdHIGH TAeTHAdLOW TAeTHAdNAdBAdHIGH PAePHAeFAdLOW PAeFAePHAdMAdLOW YAdHIG
H YAdRAdRUEdLAdLUEdWAdHIGH SHAeSSAeSAeHAdLLAdAdLOW HAdIdIIdUdUUdEEdOOdLAEdGREAT SAcCONSONANT SI
GN MEDIAL RAfLAeLA TANG LAIcSIGN MAI KANG LAIcCONSONANT SIGN FINAL NGAeLOW PAeHIGH RATHA OR LO
W PAeMAeBAeSA@1A60cSIGN SAKOTcVOWEL SIGN AeMAI SATeAAeTALL AAeIeIIeUEeUUEeUeUUeOeOA BELOWeOYeEe
AEeOOeAIeTHAM AIeOA ABOVEcSIGN MAI KANGdTONE-1dTONE-2dKHUEN TONE-3eTONE-4eTONE-5dRA HAAMdMAI SA
MdKHUEN-LUE KARAN@1A7FcCOMBINING CRYPTOGRAMMIC DOTcHORA DIGIT ZEROeONEeTWOeTHREEeFOUReFIVEeSIXe
SEVENeEIGHTeNINE@1A90cTHAM DIGIT ZEROeONEeTWOeTHREEeFOUReFIVEeSIXeSEVENeEIGHTeNINE@1AA0cSIGN WI
ANGdWIANGWAAKdSAWANdKEOWdHOYdDOKMAIdREVERSED ROTATED RANAdMAI YAMOKdKAANdKAANKUUdSATKAANdSATKAA
NKUUdHANGdCAANG@1AB0aCOMBINING DOUBLED CIRCUMFLEX ACCENTbDIAERESIS-RINGbINFINITYbDOWNWARDS ARRO
WbTRIPLE DOTbX-X BELOWbWIGGLY LINE BELOWbOPEN MARK BELOWbDOUBLE OPEN MARK BELOWbLIGHT CENTRALIZ
ATION STROKE BELOWbSTRONG CENTRALIZATION STROKE BELOWbPARENTHESES ABOVEbDOUBLE PARENTHESES ABOV
EbPARENTHESES BELOWcOVERLAYbLATIN SMALL LETTER W BELOWeTURNED W BELOWbLEFT PARENTHESIS ABOVE LE
FTbRIGHT PARENTHESIS ABOVE RIGHTbLEFT PARENTHESIS BELOW LEFTbRIGHT PARENTHESIS BELOW RIGHTbSQUA
RE BRACKETS ABOVEbNUMBER SIGN ABOVEbINVERTED DOUBLE ARCH ABOVEbPLUS SIGN ABOVEbDOUBLE PLUS SIG
N ABOVEeBELOWbTRIPLE ACUTE ACCENTbLATIN SMALL LETTER INSULAR GfRfT@1B00aBALINESE SIGN ULU RICEM
dCANDRAcCECEKcSURANGcBISAHbLETTER AKARAdTEDUNGcIKARAdTEDUNGcUKARAdTEDUNGcRA REPAeTEDUNGcLA LENG
AeTEDUNGcEKARAcAIKARAcOKARAdTEDUNGcKAdMAHAPRANAcGAdGORAcNGAcCAdLACAcJAdJERAcNYAcTA LATIKdMURD
A MAHAPRANAcDA MURDA ALPAPRANAeMAHAPRANAcNA RAMBATcTAdTAWAcDAdMADUcNAcPAdKAPALcBAdKEMBANGcMAcYA
cRAcLAcWAcSA SAGAdSAPAdcHAbSIGN REREKANbVOWEL SIGN TEDUNGdULUeSARIdSUKUeILUTdRA REPAfTEDUNGdL
A LENGAfTEDUNGdTALINGeREPAeTEDUNGeREPA TEDUNGdPEPETeTEDUNGbADEG ADEGbLETTER KAF SASAKcKHOT SASA
KcTZIR SASAKcEF SASAKcVE SASAKcZAL SASAKcASYURA SASAKcARCHAIC JNYA@1B50bDIGIT ZEROcONEcTWOcTHRE
EcFOURcFIVEcSIXcSEVENcEIGHTcNINEbPANTIbPAMADAbWINDUbCARIK PAMUNGKAHcSIKIcPARERENbPAMENENGbMUSIC
AL SYMBOL DONGdDENGdDUNGdDANGeSURANGdDINGdDAENGdDEUNGdDAINGdDANG GEDEdCOMBINING TEGEHeENDEPeKEM
PULeKEMPLIeJEGOGANeKEMPUL WITH JEGOGANeKEMPLI WITH JEGOGANeBENDEeGONGdRIGHT-HAND OPEN DUGfDAGeC
LOSED TUKfTAKdLEFT-HAND OPEN PANGfPUNGeCLOSED PLAKfPLUKeOPEN PINGbPANTI LANTANGbPAMADA LANTANG@
1B80aSUNDANESE SIGN PANYECEKcPANGLAYARcPANGWISADbLETTER AcIcUcAEcOcEcEUcKAcQAcGAcNGAcCAcJAcZAcN
YAcTAcDAcNAcPAcFAcVAcBAcMAcYAcRAcLAcWAcSAcXAcHAbCONSONANT SIGN PAMINGKALdPANYAKRAdPANYIKUbVOWE
L SIGN PANGHULUdPANYUKUdPANAELAENGdPANOLONGdPAMEPETdPANEULEUNGbSIGN PAMAAEHcVIRAMAbCONSONANT SI
GN PASANGAN MAeWAbLETTER KHAcSYAbDIGIT ZEROcONEcTWOcTHREEcFOURcFIVEcSIXcSEVENcEIGHTcNINEbAVAGRA
HAbLETTER REUcLEUcBHAcFINAL KdMaBATAK LETTER AcSIMALUNGUN AcHAcSIMALUNGUN HAcMANDAILING HAcBAcK
ARO BAcPAcSIMALUNGUN PAcNAcMANDAILING NAcWAcSIMALUNGUN WAcPAKPAK WAcGAcSIMALUNGUN GAcJAcDAcRAcS
IMALUNGUN RAcMAcSIMALUNGUN MAcSOUTHERN TAcNORTHERN TAcSAcSIMALUNGUN SAcMANDAILING SAcYAcSIMALUN
GUN YAcNGAcLAcSIMALUNGUN LAcNYAcCAcNDAcMBAcIcUbSIGN TOMPIbVOWEL SIGN EdPAKPAK EdEEdIdKARO IdOdK
ARO OdUeFOR SIMALUNGUN SAbCONSONANT SIGN NGdHbPANGOLATbPANONGONAN@1BFCbSYMBOL BINDU NA METEKdPI
NARBORASdJUDULdPANGOLATaLEPCHA LETTER KAcKLAcKHAcGAcGLAcNGAcCAcCHAcJAcNYAcTAcTHAcDAcNAcPAcPLAcP
HAcFAcFLAcBAcBLAcMAcMLAcTSAcTSHAcDZAcYAcRAcLAcHAcHLAcVAcSAcSHAcWAcAbSUBJOINED LETTER YAdRAbVOWE
L SIGN AAdIdOdOOdUdUUdEbCONSONANT SIGN KdMdLdNdPdRdTdNYIN-DOdKANGbSIGN RANcNUKTA@1C3BbPUNCTUATI
ON TA-ROLcNYET THYOOM TA-ROLcCER-WAcTSHOOK CER-WAdbDIGIT ZEROcONEcTWOcTHREEcFOURcFIVEcSIXcSEVEN
cEIGHTcNINE@1C4DbLETTER TTAcTTHAcDDAaOL CHIKI DIGIT ZEROdONEdTWOdTHREEdFOURdFIVEdSIXdSEVENdEIGH
TdNINEcLETTER LAdATdAGdANGdALdLAAdAAKdAAJdAAMdAAWdLIdISdIHdINYdIRdLUdUCdUDdUNNdUYdLEdEPdEDDdENd
ERRdLOdOTTdOBdOVdOHcMU TTUDDAGcGAAHLAA TTUDDAAGcMU-GAAHLAA TTUDDAAGcRELAAcPHAARKAAcAHADcPUNCTUA
TION MUCAADdDOUBLE MUCAADaCYRILLIC SMALL LETTER ROUNDED VEdLONG-LEGGED DEdNARROW OdWIDE ESdTAL
L TEdTHREE-LEGGED TEdTALL HARD SIGNeYATdUNBLENDED UK@1C90aGEORGIAN MTAVRULI CAPITAL LETTER ANeB
ANeGANeDONeENeVINeZENeTANeINeKANeLASeMANeNAReONePAReZHAReRAEeSANeTAReUNePHAReKHAReGHANeQAReSHIN
eCHINeCANeJILeCILeCHAReXANeJHANeHAEeHEeHIEeWEeHAReHOEeFIeYNeELIFIeTURNED GANeAIN@1CBDeAENeHAR
D SIGNeLABIAL SIGNaSUNDANESE PUNCTUATION BINDU SURYAdPANGLONGdPURNAMAdCAKRAdLEU SATANGAdKA SATA
NGAdDA SATANGAdBA SATANGA@1CD0aVEDIC TONE KARSHANAcSHARAcPRENKHAbSIGN NIHSHVASAcYAJURVEDIC MIDL
INE SVARITAbTONE YAJURVEDIC AGGRAVATED INDEPENDENT SVARITAdINDEPENDENT SVARITAdKATHAKA INDEPEND
ENT SVARITAcCANDRA BELOWcYAJURVEDIC KATHAKA INDEPENDENT SVARITA SCHROEDERcDOUBLE SVARITAcTRIPL
E SVARITAcKATHAKA ANUDATTAcDOT BELOWcTWO DOTS BELOWcTHREE DOTS BELOWcRIGVEDIC KASHMIRI INDEPEND
ENT SVARITAcATHARVAVEDIC INDEPENDENT SVARITAbSIGN VISARGA SVARITAdUDATTAcREVERSED VISARGA UDATT
AcVISARGA ANUDATTAcREVERSED VISARGA ANUDATTAcVISARGA UDATTA WITH TAILdANUDATTA WITH TAILcANUSVA
RA ANTARGOMUKHAdBAHIRGOMUKHAdVAMAGOMUKHAeWITH TAILcTIRYAKcHEXIFORM LONG ANUSVARAcLONG ANUSVARAc
RTHANG LONG ANUSVARAcANUSVARA UBHAYATO MUKHAcARDHAVISARGAcROTATED ARDHAVISARGAbTONE CANDRA ABOV
EbSIGN JIHVAMULIYAcUPADHMANIYAcATIKRAMAbTONE RING ABOVEcDOUBLE RING ABOVEbSIGN DOUBLE ANUSVAR
A ANTARGOMUKHA@1D00aLATIN LETTER SMALL CAPITAL AeAEbSMALL LETTER TURNED AEbLETTER SMALL CAPITA
L BARRED BeCeDeETHeEbSMALL LETTER TURNED OPEN EeIbLETTER SMALL CAPITAL JeKeL WITH STROKEeMeREVE
RSED NeOeOPEN ObSMALL LETTER SIDEWAYS OeOPEN OeO WITH STROKEdTURNED OEbLETTER SMALL CAPITAL OUb
SMALL LETTER TOP HALF OdBOTTOM HALF ObLETTER SMALL CAPITAL PeREVERSED ReTURNED ReTeUbSMALL LETT
ER SIDEWAYS UeDIAERESIZED UeTURNED MbLETTER SMALL CAPITAL VeWeZeEZHcVOICED LARYNGEAL SPIRANTcAI
NaGREEK LETTER SMALL CAPITAL GAMMAeLAMDAePIeRHOePSIaCYRILLIC LETTER SMALL CAPITAL ELaMODIFIER L
ETTER CAPITAL AdAEdBdBARRED BdDdEdREVERSED EdGdHdIdJdKdLdMdNdREVERSED NdOdOUdPdRdTdUdWcSMALL Ad
TURNED AdALPHAdTURNED AEdBdDdEdSCHWAdOPEN EdTURNED OPEN EdGdTURNED IdKdMdENGdOdOPEN OdTOP HAL
F OdBOTTOM HALF OdPdTdUdSIDEWAYS UdTURNED MdVdAINdBETAdGREEK GAMMAdDELTAdGREEK PHIdCHIaLATIN SU
BSCRIPT SMALL LETTER IeReUeVaGREEK SUBSCRIPT SMALL LETTER BETAeGAMMAeRHOePHIeCHIaLATIN SMALL LE
TTER UEdB WITH MIDDLE TILDEdD WITH MIDDLE TILDEdF WITH MIDDLE TILDEdM WITH MIDDLE TILDEdN WIT
H MIDDLE TILDEdP WITH MIDDLE TILDEdR WITH MIDDLE TILDEfFISHHOOK AND MIDDLE TILDEdS WITH MIDDL
E TILDEdT WITH MIDDLE TILDEdZ WITH MIDDLE TILDEdTURNED GaMODIFIER LETTER CYRILLIC ENaLATIN SMAL
L LETTER INSULAR GdTH WITH STRIKETHROUGHcCAPITAL LETTER I WITH STROKEcLETTER IOTA WITH STROKEd
P WITH STROKEcCAPITAL LETTER U WITH STROKEcLETTER UPSILON WITH STROKEdB WITH PALATAL HOOKdD WIT
H PALATAL HOOKdF WITH PALATAL HOOKdG WITH PALATAL HOOKdK WITH PALATAL HOOKdL WITH PALATAL HOOKd
M WITH PALATAL HOOKdN WITH PALATAL HOOKdP WITH PALATAL HOOKdR WITH PALATAL HOOKdS WITH PALATA
L HOOKdESH WITH PALATAL HOOKdV WITH PALATAL HOOKdX WITH PALATAL HOOKdZ WITH PALATAL HOOKdA WIT
H RETROFLEX HOOKdALPHA WITH RETROFLEX HOOKdD WITH HOOK AND TAILdE WITH RETROFLEX HOOKdOPEN E WI
TH RETROFLEX HOOKdREVERSED OPEN E WITH RETROFLEX HOOKdSCHWA WITH RETROFLEX HOOKdI WITH RETROFLE
X HOOKdOPEN O WITH RETROFLEX HOOKdESH WITH RETROFLEX HOOKdU WITH RETROFLEX HOOKdEZH WITH RETROF
LEX HOOKaMODIFIER LETTER SMALL TURNED ALPHAdCeWITH CURLdETHdREVERSED OPEN EdFdDOTLESS J WITH ST
ROKEdSCRIPT GdTURNED HdI WITH STROKEdIOTAdCAPITAL IfWITH STROKEdJ WITH CROSSED-TAILdL WITH RETR
OFLEX HOOKfPALATAL HOOKdCAPITAL LdM WITH HOOKdTURNED M WITH LONG LEGdN WITH LEFT HOOKfRETROFLE
X HOOKdCAPITAL NdBARRED OdPHIdS WITH HOOKdESHdT WITH PALATAL HOOKdU BARdUPSILONdCAPITAL UdV WIT
H HOOKdTURNED VdZeWITH RETROFLEX HOOKfCURLdEZHdTHETAaCOMBINING DOTTED GRAVE ACCENTcACUTE ACCENT
bSNAKE BELOWbSUSPENSION MARKbMACRON-ACUTEbGRAVE-MACRONbMACRON-GRAVEbACUTE-MACRONbGRAVE-ACUTE-GR
AVEbACUTE-GRAVE-ACUTEbLATIN SMALL LETTER R BELOWbBREVE-MACRONbMACRON-BREVEbDOUBLE CIRCUMFLEX AB
OVEbOGONEK ABOVEbZIGZAG BELOWbIS BELOWbUR ABOVEbUS ABOVEbLATIN SMALL LETTER FLATTENED OPEN A AB
OVEeAEeAOeAVeC CEDILLAeINSULAR DeETHeGcLETTER SMALL CAPITAL GcSMALL LETTER KeLcLETTER SMALL CAP
ITAL LfMcSMALL LETTER NcLETTER SMALL CAPITAL NfRcSMALL LETTER R ROTUNDAeSeLONG SeZeALPHAeBeBETA
eSCHWAeFeL WITH DOUBLE MIDDLE TILDEeO WITH LIGHT CENTRALIZATION STROKEePeESHeU WITH LIGHT CENTR
ALIZATION STROKEeWeA WITH DIAERESISeO WITH DIAERESISeU WITH DIAERESISbUP TACK ABOVEbKAVYKA ABOV
E RIGHTdLEFTbDOT ABOVE LEFTbWIDE INVERTED BRIDGE BELOWbDOT BELOW LEFTbDELETION MARKbDOUBLE INVE
RTED BREVE BELOWbALMOST EQUAL TO BELOWbLEFT ARROWHEAD ABOVEbRIGHT ARROWHEAD AND DOWN ARROWHEA
D BELOWaLATIN CAPITAL LETTER A WITH RING BELOWbSMALL LETTER A WITH RING BELOWbCAPITAL LETTE
R B WITH DOT ABOVEbSMALL LETTER B WITH DOT ABOVEbCAPITAL LETTER B WITH DOT BELOWbSMALL LETTE
R B WITH DOT BELOWbCAPITAL LETTER B WITH LINE BELOWbSMALL LETTER B WITH LINE BELOWbCAPITAL LETT
ER C WITH CEDILLA AND ACUTEbSMALL LETTER C WITH CEDILLA AND ACUTEbCAPITAL LETTER D WITH DOT ABO
VEbSMALL LETTER D WITH DOT ABOVEbCAPITAL LETTER D WITH DOT BELOWbSMALL LETTER D WITH DOT BELOWb
CAPITAL LETTER D WITH LINE BELOWbSMALL LETTER D WITH LINE BELOWbCAPITAL LETTER D WITH CEDILLAbS
MALL LETTER D WITH CEDILLAbCAPITAL LETTER D WITH CIRCUMFLEX BELOWbSMALL LETTER D WITH CIRCUMFLE
X BELOWbCAPITAL LETTER E WITH MACRON AND GRAVEbSMALL LETTER E WITH MACRON AND GRAVEbCAPITAL LET
TER E WITH MACRON AND ACUTEbSMALL LETTER E WITH MACRON AND ACUTEbCAPITAL LETTER E WITH CIRCUMFL
EX BELOWbSMALL LETTER E WITH CIRCUMFLEX BELOWbCAPITAL LETTER E WITH TILDE BELOWbSMALL LETTE
R E WITH TILDE BELOWbCAPITAL LETTER E WITH CEDILLA AND BREVEbSMALL LETTER E WITH CEDILLA AND BR
EVEbCAPITAL LETTER F WITH DOT ABOVEbSMALL LETTER F WITH DOT ABOVEbCAPITAL LETTER G WITH MACRONb
SMALL LETTER G WITH MACRONbCAPITAL LETTER H WITH DOT ABOVEbSMALL LETTER H WITH DOT ABOVEbCAPITA
L LETTER H WITH DOT BELOWbSMALL LETTER H WITH DOT BELOWbCAPITAL LETTER H WITH DIAERESISbSMALL L
ETTER H WITH DIAERESISbCAPITAL LETTER H WITH CEDILLAbSMALL LETTER H WITH CEDILLAbCAPITAL LETTE
R H WITH BREVE BELOWbSMALL LETTER H WITH BREVE BELOWbCAPITAL LETTER I WITH TILDE BELOWbSMALL LE
TTER I WITH TILDE BELOWbCAPITAL LETTER I WITH DIAERESIS AND ACUTEbSMALL LETTER I WITH DIAERESI
S AND ACUTEbCAPITAL LETTER K WITH ACUTEbSMALL LETTER K WITH ACUTEbCAPITAL LETTER K WITH DOT BEL
OWbSMALL LETTER K WITH DOT BELOWbCAPITAL LETTER K WITH LINE BELOWbSMALL LETTER K WITH LINE BELO
WbCAPITAL LETTER L WITH DOT BELOWbSMALL LETTER L WITH DOT BELOWbCAPITAL LETTER L WITH DOT BELO
W AND MACRONbSMALL LETTER L WITH DOT BELOW AND MACRONbCAPITAL LETTER L WITH LINE BELOWbSMALL LE
TTER L WITH LINE BELOWbCAPITAL LETTER L WITH CIRCUMFLEX BELOWbSMALL LETTER L WITH CIRCUMFLEX BE
LOWbCAPITAL LETTER M WITH ACUTEbSMALL LETTER M WITH ACUTEbCAPITAL LETTER M WITH DOT ABOVEbSMAL
L LETTER M WITH DOT ABOVEbCAPITAL LETTER M WITH DOT BELOWbSMALL LETTER M WITH DOT BELOWbCAPITA
L LETTER N WITH DOT ABOVEbSMALL LETTER N WITH DOT ABOVEbCAPITAL LETTER N WITH DOT BELOWbSMALL L
ETTER N WITH DOT BELOWbCAPITAL LETTER N WITH LINE BELOWbSMALL LETTER N WITH LINE BELOWbCAPITA
L LETTER N WITH CIRCUMFLEX BELOWbSMALL LETTER N WITH CIRCUMFLEX BELOWbCAPITAL LETTER O WITH TIL
DE AND ACUTEbSMALL LETTER O WITH TILDE AND ACUTEbCAPITAL LETTER O WITH TILDE AND DIAERESISbSMAL
L LETTER O WITH TILDE AND DIAERESISbCAPITAL LETTER O WITH MACRON AND GRAVEbSMALL LETTER O WIT
H MACRON AND GRAVEbCAPITAL LETTER O WITH MACRON AND ACUTEbSMALL LETTER O WITH MACRON AND ACUTEb
CAPITAL LETTER P WITH ACUTEbSMALL LETTER P WITH ACUTEbCAPITAL LETTER P WITH DOT ABOVEbSMALL LET
TER P WITH DOT ABOVEbCAPITAL LETTER R WITH DOT ABOVEbSMALL LETTER R WITH DOT ABOVEbCAPITAL LETT
ER R WITH DOT BELOWbSMALL LETTER R WITH DOT BELOWbCAPITAL LETTER R WITH DOT BELOW AND MACRONbSM
ALL LETTER R WITH DOT BELOW AND MACRONbCAPITAL LETTER R WITH LINE BELOWbSMALL LETTER R WITH LIN
E BELOWbCAPITAL LETTER S WITH DOT ABOVEbSMALL LETTER S WITH DOT ABOVEbCAPITAL LETTER S WITH DO
T BELOWbSMALL LETTER S WITH DOT BELOWbCAPITAL LETTER S WITH ACUTE AND DOT ABOVEbSMALL LETTE
R S WITH ACUTE AND DOT ABOVEbCAPITAL LETTER S WITH CARON AND DOT ABOVEbSMALL LETTER S WITH CARO
N AND DOT ABOVEbCAPITAL LETTER S WITH DOT BELOW AND DOT ABOVEbSMALL LETTER S WITH DOT BELOW AN
D DOT ABOVEbCAPITAL LETTER T WITH DOT ABOVEbSMALL LETTER T WITH DOT ABOVEbCAPITAL LETTER T WIT
H DOT BELOWbSMALL LETTER T WITH DOT BELOWbCAPITAL LETTER T WITH LINE BELOWbSMALL LETTER T WIT
H LINE BELOWbCAPITAL LETTER T WITH CIRCUMFLEX BELOWbSMALL LETTER T WITH CIRCUMFLEX BELOWbCAPITA
L LETTER U WITH DIAERESIS BELOWbSMALL LETTER U WITH DIAERESIS BELOWbCAPITAL LETTER U WITH TILD
E BELOWbSMALL LETTER U WITH TILDE BELOWbCAPITAL LETTER U WITH CIRCUMFLEX BELOWbSMALL LETTER U W
ITH CIRCUMFLEX BELOWbCAPITAL LETTER U WITH TILDE AND ACUTEbSMALL LETTER U WITH TILDE AND ACUTEb
CAPITAL LETTER U WITH MACRON AND DIAERESISbSMALL LETTER U WITH MACRON AND DIAERESISbCAPITAL LET
TER V WITH TILDEbSMALL LETTER V WITH TILDEbCAPITAL LETTER V WITH DOT BELOWbSMALL LETTER V WIT
H DOT BELOWbCAPITAL LETTER W WITH GRAVEbSMALL LETTER W WITH GRAVEbCAPITAL LETTER W WITH ACUTEbS
MALL LETTER W WITH ACUTEbCAPITAL LETTER W WITH DIAERESISbSMALL LETTER W WITH DIAERESISbCAPITA
L LETTER W WITH DOT ABOVEbSMALL LETTER W WITH DOT ABOVEbCAPITAL LETTER W WITH DOT BELOWbSMALL L
ETTER W WITH DOT BELOWbCAPITAL LETTER X WITH DOT ABOVEbSMALL LETTER X WITH DOT ABOVEbCAPITAL LE
TTER X WITH DIAERESISbSMALL LETTER X WITH DIAERESISbCAPITAL LETTER Y WITH DOT ABOVEbSMALL LETTE
R Y WITH DOT ABOVEbCAPITAL LETTER Z WITH CIRCUMFLEXbSMALL LETTER Z WITH CIRCUMFLEXbCAPITAL LETT
ER Z WITH DOT BELOWbSMALL LETTER Z WITH DOT BELOWbCAPITAL LETTER Z WITH LINE BELOWbSMALL LETTE
R Z WITH LINE BELOWdH WITH LINE BELOWdT WITH DIAERESISdW WITH RING ABOVEdY WITH RING ABOVEdA WI
TH RIGHT HALF RINGdLONG S WITH DOT ABOVEgDIAGONAL STROKEgHIGH STROKEbCAPITAL LETTER SHARP SbSMA
LL LETTER DELTAbCAPITAL LETTER A WITH DOT BELOWbSMALL LETTER A WITH DOT BELOWbCAPITAL LETTE
R A WITH HOOK ABOVEbSMALL LETTER A WITH HOOK ABOVEbCAPITAL LETTER A WITH CIRCUMFLEX AND ACUTEbS
MALL LETTER A WITH CIRCUMFLEX AND ACUTEbCAPITAL LETTER A WITH CIRCUMFLEX AND GRAVEbSMALL LETTE
R A WITH CIRCUMFLEX AND GRAVEbCAPITAL LETTER A WITH CIRCUMFLEX AND HOOK ABOVEbSMALL LETTER A WI
TH CIRCUMFLEX AND HOOK ABOVEbCAPITAL LETTER A WITH CIRCUMFLEX AND TILDEbSMALL LETTER A WITH CIR
CUMFLEX AND TILDEbCAPITAL LETTER A WITH CIRCUMFLEX AND DOT BELOWbSMALL LETTER A WITH CIRCUMFLE
X AND DOT BELOWbCAPITAL LETTER A WITH BREVE AND ACUTEbSMALL LETTER A WITH BREVE AND ACUTEbCAPIT
AL LETTER A WITH BREVE AND GRAVEbSMALL LETTER A WITH BREVE AND GRAVEbCAPITAL LETTER A WITH BREV
E AND HOOK ABOVEbSMALL LETTER A WITH BREVE AND HOOK ABOVEbCAPITAL LETTER A WITH BREVE AND TILDE
bSMALL LETTER A WITH BREVE AND TILDEbCAPITAL LETTER A WITH BREVE AND DOT BELOWbSMALL LETTER A W
ITH BREVE AND DOT BELOWbCAPITAL LETTER E WITH DOT BELOWbSMALL LETTER E WITH DOT BELOWbCAPITAL L
ETTER E WITH HOOK ABOVEbSMALL LETTER E WITH HOOK ABOVEbCAPITAL LETTER E WITH TILDEbSMALL LETTE
R E WITH TILDEbCAPITAL LETTER E WITH CIRCUMFLEX AND ACUTEbSMALL LETTER E WITH CIRCUMFLEX AND AC
UTEbCAPITAL LETTER E WITH CIRCUMFLEX AND GRAVEbSMALL LETTER E WITH CIRCUMFLEX AND GRAVEbCAPITA
L LETTER E WITH CIRCUMFLEX AND HOOK ABOVEbSMALL LETTER E WITH CIRCUMFLEX AND HOOK ABOVEbCAPITA
L LETTER E WITH CIRCUMFLEX AND TILDEbSMALL LETTER E WITH CIRCUMFLEX AND TILDEbCAPITAL LETTE
R E WITH CIRCUMFLEX AND DOT BELOWbSMALL LETTER E WITH CIRCUMFLEX AND DOT BELOWbCAPITAL LETTE
R I WITH HOOK ABOVEbSMALL LETTER I WITH HOOK ABOVEbCAPITAL LETTER I WITH DOT BELOWbSMALL LETTE
R I WITH DOT BELOWbCAPITAL LETTER O WITH DOT BELOWbSMALL LETTER O WITH DOT BELOWbCAPITAL LETTE
R O WITH HOOK ABOVEbSMALL LETTER O WITH HOOK ABOVEbCAPITAL LETTER O WITH CIRCUMFLEX AND ACUTEbS
MALL LETTER O WITH CIRCUMFLEX AND ACUTEbCAPITAL LETTER O WITH CIRCUMFLEX AND GRAVEbSMALL LETTE
R O WITH CIRCUMFLEX AND GRAVEbCAPITAL LETTER O WITH CIRCUMFLEX AND HOOK ABOVEbSMALL LETTER O WI
TH CIRCUMFLEX AND HOOK ABOVEbCAPITAL LETTER O WITH CIRCUMFLEX AND TILDEbSMALL LETTER O WITH CIR
CUMFLEX AND TILDEbCAPITAL LETTER O WITH CIRCUMFLEX AND DOT BELOWbSMALL LETTER O WITH CIRCUMFLE
X AND DOT BELOWbCAPITAL LETTER O WITH HORN AND ACUTEbSMALL LETTER O WITH HORN AND ACUTEbCAPITA
L LETTER O WITH HORN AND GRAVEbSMALL LETTER O WITH HORN AND GRAVEbCAPITAL LETTER O WITH HORN AN
D HOOK ABOVEbSMALL LETTER O WITH HORN AND HOOK ABOVEbCAPITAL LETTER O WITH HORN AND TILDEbSMAL
L LETTER O WITH HORN AND TILDEbCAPITAL LETTER O WITH HORN AND DOT BELOWbSMALL LETTER O WITH HOR
N AND DOT BELOWbCAPITAL LETTER U WITH DOT BELOWbSMALL LETTER U WITH DOT BELOWbCAPITAL LETTE
R U WITH HOOK ABOVEbSMALL LETTER U WITH HOOK ABOVEbCAPITAL LETTER U WITH HORN AND ACUTEbSMALL L
ETTER U WITH HORN AND ACUTEbCAPITAL LETTER U WITH HORN AND GRAVEbSMALL LETTER U WITH HORN AND G
RAVEbCAPITAL LETTER U WITH HORN AND HOOK ABOVEbSMALL LETTER U WITH HORN AND HOOK ABOVEbCAPITA
L LETTER U WITH HORN AND TILDEbSMALL LETTER U WITH HORN AND TILDEbCAPITAL LETTER U WITH HORN AN
D DOT BELOWbSMALL LETTER U WITH HORN AND DOT BELOWbCAPITAL LETTER Y WITH GRAVEbSMALL LETTER Y W
ITH GRAVEbCAPITAL LETTER Y WITH DOT BELOWbSMALL LETTER Y WITH DOT BELOWbCAPITAL LETTER Y WITH H
OOK ABOVEbSMALL LETTER Y WITH HOOK ABOVEbCAPITAL LETTER Y WITH TILDEbSMALL LETTER Y WITH TILDEb
CAPITAL LETTER MIDDLE-WELSH LLbSMALL LETTER MIDDLE-WELSH LLbCAPITAL LETTER MIDDLE-WELSH VbSMAL
L LETTER MIDDLE-WELSH VbCAPITAL LETTER Y WITH LOOPbSMALL LETTER Y WITH LOOPaGREEK SMALL LETTE
R ALPHA WITH PSILIfDASIAfPSILI AND VARIAfDASIA AND VARIAfPSILI AND OXIAfDASIA AND OXIAfPSILI AN
D PERISPOMENIfDASIA AND PERISPOMENIbCAPITAL LETTER ALPHA WITH PSILIfDASIAfPSILI AND VARIAfDASI
A AND VARIAfPSILI AND OXIAfDASIA AND OXIAfPSILI AND PERISPOMENIfDASIA AND PERISPOMENIbSMALL LET
TER EPSILON WITH PSILIfDASIAfPSILI AND VARIAfDASIA AND VARIAfPSILI AND OXIAfDASIA AND OXIA@1F18
bCAPITAL LETTER EPSILON WITH PSILIfDASIAfPSILI AND VARIAfDASIA AND VARIAfPSILI AND OXIAfDASIA A
ND OXIA@1F20bSMALL LETTER ETA WITH PSILIfDASIAfPSILI AND VARIAfDASIA AND VARIAfPSILI AND OXIAfD
ASIA AND OXIAfPSILI AND PERISPOMENIfDASIA AND PERISPOMENIbCAPITAL LETTER ETA WITH PSILIfDASIAfP
SILI AND VARIAfDASIA AND VARIAfPSILI AND OXIAfDASIA AND OXIAfPSILI AND PERISPOMENIfDASIA AND PE
RISPOMENIbSMALL LETTER IOTA WITH PSILIfDASIAfPSILI AND VARIAfDASIA AND VARIAfPSILI AND OXIAfDAS
IA AND OXIAfPSILI AND PERISPOMENIfDASIA AND PERISPOMENIbCAPITAL LETTER IOTA WITH PSILIfDASIAfPS
ILI AND VARIAfDASIA AND VARIAfPSILI AND OXIAfDASIA AND OXIAfPSILI AND PERISPOMENIfDASIA AND PER
ISPOMENIbSMALL LETTER OMICRON WITH PSILIfDASIAfPSILI AND VARIAfDASIA AND VARIAfPSILI AND OXIAfD
ASIA AND OXIA@1F48bCAPITAL LETTER OMICRON WITH PSILIfDASIAfPSILI AND VARIAfDASIA AND VARIAfPSIL
I AND OXIAfDASIA AND OXIA@1F50bSMALL LETTER UPSILON WITH PSILIfDASIAfPSILI AND VARIAfDASIA AN
D VARIAfPSILI AND OXIAfDASIA AND OXIAfPSILI AND PERISPOMENIfDASIA AND PERISPOMENI@1F59bCAPITA
L LETTER UPSILON WITH DASIA@1F5BgAND VARIA@1F5DhOXIA@1F5FhPERISPOMENIbSMALL LETTER OMEGA WITH P
SILIfDASIAfPSILI AND VARIAfDASIA AND VARIAfPSILI AND OXIAfDASIA AND OXIAfPSILI AND PERISPOMENIf
DASIA AND PERISPOMENIbCAPITAL LETTER OMEGA WITH PSILIfDASIAfPSILI AND VARIAfDASIA AND VARIAfPSI
LI AND OXIAfDASIA AND OXIAfPSILI AND PERISPOMENIfDASIA AND PERISPOMENIbSMALL LETTER ALPHA WIT
H VARIAfOXIAdEPSILON WITH VARIAfOXIAdETA WITH VARIAfOXIAdIOTA WITH VARIAfOXIAdOMICRON WITH VARI
AfOXIAdUPSILON WITH VARIAfOXIAdOMEGA WITH VARIAfOXIA@1F80dALPHA WITH PSILI AND YPOGEGRAMMENIfDA
SIA AND YPOGEGRAMMENIfPSILI AND VARIA AND YPOGEGRAMMENIfDASIA AND VARIA AND YPOGEGRAMMENIfPSIL
I AND OXIA AND YPOGEGRAMMENIfDASIA AND OXIA AND YPOGEGRAMMENIfPSILI AND PERISPOMENI AND YPOGEGR
AMMENIfDASIA AND PERISPOMENI AND YPOGEGRAMMENIbCAPITAL LETTER ALPHA WITH PSILI AND PROSGEGRAMME
NIfDASIA AND PROSGEGRAMMENIfPSILI AND VARIA AND PROSGEGRAMMENIfDASIA AND VARIA AND PROSGEGRAMME
NIfPSILI AND OXIA AND PROSGEGRAMMENIfDASIA AND OXIA AND PROSGEGRAMMENIfPSILI AND PERISPOMENI AN
D PROSGEGRAMMENIfDASIA AND PERISPOMENI AND PROSGEGRAMMENIbSMALL LETTER ETA WITH PSILI AND YPOGE
GRAMMENIfDASIA AND YPOGEGRAMMENIfPSILI AND VARIA AND YPOGEGRAMMENIfDASIA AND VARIA AND YPOGEGRA
MMENIfPSILI AND OXIA AND YPOGEGRAMMENIfDASIA AND OXIA AND YPOGEGRAMMENIfPSILI AND PERISPOMENI A
ND YPOGEGRAMMENIfDASIA AND PERISPOMENI AND YPOGEGRAMMENIbCAPITAL LETTER ETA WITH PSILI AND PROS
GEGRAMMENIfDASIA AND PROSGEGRAMMENIfPSILI AND VARIA AND PROSGEGRAMMENIfDASIA AND VARIA AND PROS
GEGRAMMENIfPSILI AND OXIA AND PROSGEGRAMMENIfDASIA AND OXIA AND PROSGEGRAMMENIfPSILI AND PERISP
OMENI AND PROSGEGRAMMENIfDASIA AND PERISPOMENI AND PROSGEGRAMMENIbSMALL LETTER OMEGA WITH PSIL
I AND YPOGEGRAMMENIfDASIA AND YPOGEGRAMMENIfPSILI AND VARIA AND YPOGEGRAMMENIfDASIA AND VARIA A
ND YPOGEGRAMMENIfPSILI AND OXIA AND YPOGEGRAMMENIfDASIA AND OXIA AND YPOGEGRAMMENIfPSILI AND PE
RISPOMENI AND YPOGEGRAMMENIfDASIA AND PERISPOMENI AND YPOGEGRAMMENIbCAPITAL LETTER OMEGA WITH P
SILI AND PROSGEGRAMMENIfDASIA AND PROSGEGRAMMENIfPSILI AND VARIA AND PROSGEGRAMMENIfDASIA AND V
ARIA AND PROSGEGRAMMENIfPSILI AND OXIA AND PROSGEGRAMMENIfDASIA AND OXIA AND PROSGEGRAMMENIfPSI
LI AND PERISPOMENI AND PROSGEGRAMMENIfDASIA AND PERISPOMENI AND PROSGEGRAMMENIbSMALL LETTER ALP
HA WITH VRACHYfMACRONfVARIA AND YPOGEGRAMMENIfYPOGEGRAMMENIfOXIA AND YPOGEGRAMMENI@1FB6fPERISPO
MENIgAND YPOGEGRAMMENIbCAPITAL LETTER ALPHA WITH VRACHYfMACRONfVARIAfOXIAfPROSGEGRAMMENIbKORONI
SbPROSGEGRAMMENIbPSILIbPERISPOMENIbDIALYTIKA AND PERISPOMENIbSMALL LETTER ETA WITH VARIA AND YP
OGEGRAMMENIfYPOGEGRAMMENIfOXIA AND YPOGEGRAMMENI@1FC6fPERISPOMENIgAND YPOGEGRAMMENIbCAPITAL LET
TER EPSILON WITH VARIAfOXIAdETA WITH VARIAfOXIAfPROSGEGRAMMENIbPSILI AND VARIAdOXIAdPERISPOMENI
bSMALL LETTER IOTA WITH VRACHYfMACRONfDIALYTIKA AND VARIAhOXIA@1FD6fPERISPOMENIfDIALYTIKA AND P
ERISPOMENIbCAPITAL LETTER IOTA WITH VRACHYfMACRONfVARIAfOXIA@1FDDbDASIA AND VARIAdOXIAdPERISPOM
ENIbSMALL LETTER UPSILON WITH VRACHYfMACRONfDIALYTIKA AND VARIAhOXIAdRHO WITH PSILIfDASIAdUPSIL
ON WITH PERISPOMENIfDIALYTIKA AND PERISPOMENIbCAPITAL LETTER UPSILON WITH VRACHYfMACRONfVARIAfO
XIAdRHO WITH DASIAbDIALYTIKA AND VARIAdOXIAbVARIA@1FF2bSMALL LETTER OMEGA WITH VARIA AND YPOGEG
RAMMENIfYPOGEGRAMMENIfOXIA AND YPOGEGRAMMENI@1FF6fPERISPOMENIgAND YPOGEGRAMMENIbCAPITAL LETTE
R OMICRON WITH VARIAfOXIAdOMEGA WITH VARIAfOXIAfPROSGEGRAMMENIbOXIAbDASIA@2000aEN QUADaEM QUADa
EN SPACEaEM SPACEaTHREE-PER-EM SPACEaFOUR-PER-EM SPACEaSIX-PER-EM SPACEaFIGURE SPACEaPUNCTUATIO
N SPACEaTHIN SPACEaHAIR SPACEaZERO WIDTH SPACE@200BaZWSPaZERO WIDTH NON-JOINER@200CaZWNJaZERO W
IDTH JOINER@200DaZWJaLEFT-TO-RIGHT MARK@200EaLRMaRIGHT-TO-LEFT MARK@200FaRLMaHYPHENaNON-BREAKIN
G HYPHENaFIGURE DASHaEN DASHaEM DASHaHORIZONTAL BARaDOUBLE VERTICAL LINEbLOW LINEaLEFT SINGLE Q
UOTATION MARKaRIGHT SINGLE QUOTATION MARKaSINGLE LOW-9 QUOTATION MARKbHIGH-REVERSED-9 QUOTATIO
N MARKaLEFT DOUBLE QUOTATION MARKaRIGHT DOUBLE QUOTATION MARKaDOUBLE LOW-9 QUOTATION MARKbHIGH-
REVERSED-9 QUOTATION MARKaDAGGERaDOUBLE DAGGERaBULLETaTRIANGULAR BULLETaONE DOT LEADERaTWO DO
T LEADERaHORIZONTAL ELLIPSISaHYPHENATION POINTaLINE SEPARATORaPARAGRAPH SEPARATORaLEFT-TO-RIGH
T EMBEDDING@202AaLREaRIGHT-TO-LEFT EMBEDDING@202BaRLEaPOP DIRECTIONAL FORMATTING@202CaPDFaLEFT-
TO-RIGHT OVERRIDE@202DaLROaRIGHT-TO-LEFT OVERRIDE@202EaRLOaNARROW NO-BREAK SPACE@202FaNNBSPaPE
R MILLE SIGNbTEN THOUSAND SIGNaPRIMEaDOUBLE PRIMEaTRIPLE PRIMEaREVERSED PRIMEbDOUBLE PRIMEbTRIP
LE PRIMEaCARETaSINGLE LEFT-POINTING ANGLE QUOTATION MARKbRIGHT-POINTING ANGLE QUOTATION MARKaRE
FERENCE MARKaDOUBLE EXCLAMATION MARKaINTERROBANGaOVERLINEaUNDERTIEaCHARACTER TIEaCARET INSERTIO
N POINTaASTERISMaHYPHEN BULLETaFRACTION SLASHaLEFT SQUARE BRACKET WITH QUILLaRIGHT SQUARE BRACK
ET WITH QUILLaDOUBLE QUESTION MARKaQUESTION EXCLAMATION MARKaEXCLAMATION QUESTION MARKaTIRONIA
N SIGN ETaREVERSED PILCROW SIGNaBLACK LEFTWARDS BULLETbRIGHTWARDS BULLETaLOW ASTERISKaREVERSE
D SEMICOLONaCLOSE UPaTWO ASTERISKS ALIGNED VERTICALLYaCOMMERCIAL MINUS SIGNaSWUNG DASHaINVERTE
D UNDERTIEaFLOWER PUNCTUATION MARKaTHREE DOT PUNCTUATIONaQUADRUPLE PRIMEaFOUR DOT PUNCTUATIONaF
IVE DOT PUNCTUATIONaTWO DOT PUNCTUATIONaFOUR DOT MARKaDOTTED CROSSaTRICOLONaVERTICAL FOUR DOTSa
MEDIUM MATHEMATICAL SPACE@205FaMMSPaWORD JOINER@2060aWJaFUNCTION APPLICATIONaINVISIBLE TIMESbSE
PARATORbPLUS@2066aLEFT-TO-RIGHT ISOLATE@2066aLRIaRIGHT-TO-LEFT ISOLATE@2067aRLIaFIRST STRONG IS
OLATE@2068aFSIaPOP DIRECTIONAL ISOLATE@2069aPDIaINHIBIT SYMMETRIC SWAPPINGaACTIVATE SYMMETRIC S
WAPPINGaINHIBIT ARABIC FORM SHAPINGaACTIVATE ARABIC FORM SHAPINGaNATIONAL DIGIT SHAPESaNOMINA
L DIGIT SHAPESaSUPERSCRIPT ZERObLATIN SMALL LETTER I@2074bFOURbFIVEbSIXbSEVENbEIGHTbNINEbPLUS S
IGNbMINUSbEQUALS SIGNbLEFT PARENTHESISbRIGHT PARENTHESISbLATIN SMALL LETTER NaSUBSCRIPT ZERObON
EbTWObTHREEbFOURbFIVEbSIXbSEVENbEIGHTbNINEbPLUS SIGNbMINUSbEQUALS SIGNbLEFT PARENTHESISbRIGHT P
ARENTHESIS@2090aLATIN SUBSCRIPT SMALL LETTER AeEeOeXeSCHWAeHeKeLeMeNePeSeT@20A0aEURO-CURRENCY S
IGNaCOLON SIGNaCRUZEIRO SIGNaFRENCH FRANC SIGNaLIRA SIGNaMILL SIGNaNAIRA SIGNaPESETA SIGNaRUPE
E SIGNaWON SIGNaNEW SHEQEL SIGNaDONG SIGNaEURO SIGNaKIP SIGNaTUGRIK SIGNaDRACHMA SIGNaGERMAN PE
NNY SIGNaPESO SIGNaGUARANI SIGNaAUSTRAL SIGNaHRYVNIA SIGNaCEDI SIGNaLIVRE TOURNOIS SIGNaSPESMIL
O SIGNaTENGE SIGNaINDIAN RUPEE SIGNaTURKISH LIRA SIGNaNORDIC MARK SIGNaMANAT SIGNaRUBLE SIGNaLA
RI SIGNaBITCOIN SIGNaSOM SIGN@20D0aCOMBINING LEFT HARPOON ABOVEbRIGHT HARPOON ABOVEbLONG VERTIC
AL LINE OVERLAYbSHORT VERTICAL LINE OVERLAYbANTICLOCKWISE ARROW ABOVEbCLOCKWISE ARROW ABOVEbLEF
T ARROW ABOVEbRIGHT ARROW ABOVEbRING OVERLAYbCLOCKWISE RING OVERLAYbANTICLOCKWISE RING OVERLAYb
THREE DOTS ABOVEbFOUR DOTS ABOVEbENCLOSING CIRCLEcSQUAREcDIAMONDcCIRCLE BACKSLASHbLEFT RIGHT AR
ROW ABOVEbENCLOSING SCREENcKEYCAPcUPWARD POINTING TRIANGLEbREVERSE SOLIDUS OVERLAYbDOUBLE VERTI
CAL STROKE OVERLAYbANNUITY SYMBOLbTRIPLE UNDERDOTbWIDE BRIDGE ABOVEbLEFTWARDS ARROW OVERLAYbLON
G DOUBLE SOLIDUS OVERLAYbRIGHTWARDS HARPOON WITH BARB DOWNWARDSbLEFTWARDS HARPOON WITH BARB DOW
NWARDSbLEFT ARROW BELOWbRIGHT ARROW BELOWbASTERISK ABOVE@2100aACCOUNT OFaADDRESSED TO THE SUBJE
CTaDOUBLE-STRUCK CAPITAL CaDEGREE CELSIUSaCENTRE LINE SYMBOLaCARE OFaCADA UNAaEULER CONSTANTaSC
RUPLEaDEGREE FAHRENHEITaSCRIPT SMALL GbCAPITAL HaBLACK-LETTER CAPITAL HaDOUBLE-STRUCK CAPITAL H
aPLANCK CONSTANTcOVER TWO PIaSCRIPT CAPITAL IaBLACK-LETTER CAPITAL IaSCRIPT CAPITAL LbSMALL La
L B BAR SYMBOLaDOUBLE-STRUCK CAPITAL NaNUMERO SIGNaSOUND RECORDING COPYRIGHTaSCRIPT CAPITAL P@2
118aWEIERSTRASS ELLIPTIC FUNCTIONaDOUBLE-STRUCK CAPITAL PcQaSCRIPT CAPITAL RaBLACK-LETTER CAPIT
AL RaDOUBLE-STRUCK CAPITAL RaPRESCRIPTION TAKEaRESPONSEaSERVICE MARKaTELEPHONE SIGNaTRADE MAR
K SIGNaVERSICLEaDOUBLE-STRUCK CAPITAL ZaOUNCE SIGNaOHM SIGNaINVERTED OHM SIGNaBLACK-LETTER CAPI
TAL ZaTURNED GREEK SMALL LETTER IOTAaKELVIN SIGNaANGSTROM SIGNaSCRIPT CAPITAL BaBLACK-LETTER CA
PITAL CaESTIMATED SYMBOLaSCRIPT SMALL EbCAPITAL EcFaTURNED CAPITAL FaSCRIPT CAPITAL MbSMALL OaA
LEF SYMBOLaBET SYMBOLaGIMEL SYMBOLaDALET SYMBOLaINFORMATION SOURCEaROTATED CAPITAL QaFACSIMIL
E SIGNaDOUBLE-STRUCK SMALL PIcGAMMAbCAPITAL GAMMAcPIbN-ARY SUMMATIONaTURNED SANS-SERIF CAPITA
L GdLaREVERSED SANS-SERIF CAPITAL LaTURNED SANS-SERIF CAPITAL YaDOUBLE-STRUCK ITALIC CAPITAL Dc
SMALL DdEdIdJaPROPERTY LINEaTURNED AMPERSANDaPER SIGNaAKTIESELSKABaTURNED SMALL FaSYMBOL FOR SA
MARITAN SOURCEaVULGAR FRACTION ONE SEVENTHdNINTHdTENTHdTHIRDcTWO THIRDScONE FIFTHcTWO FIFTHScTH
REE FIFTHScFOUR FIFTHScONE SIXTHcFIVE SIXTHScONE EIGHTHcTHREE EIGHTHScFIVE EIGHTHScSEVEN EIGHTH
SaFRACTION NUMERATOR ONEaROMAN NUMERAL ONEcTWOcTHREEcFOURcFIVEcSIXcSEVENcEIGHTcNINEcTENcELEVENc
TWELVEcFIFTYcONE HUNDREDcFIVE HUNDREDcONE THOUSANDaSMALL ROMAN NUMERAL ONEdTWOdTHREEdFOURdFIVEd
SIXdSEVENdEIGHTdNINEdTENdELEVENdTWELVEdFIFTYdONE HUNDREDdFIVE HUNDREDdONE THOUSANDaROMAN NUMERA
L ONE THOUSAND C DcFIVE THOUSANDcTEN THOUSANDcREVERSED ONE HUNDREDaLATIN SMALL LETTER REVERSE
D CaROMAN NUMERAL SIX LATE FORMcFIFTY EARLY FORMdTHOUSANDcONE HUNDRED THOUSANDaVULGAR FRACTIO
N ZERO THIRDSaTURNED DIGIT TWOcTHREE@2190aLEFTWARDS ARROWaUPWARDS ARROWaRIGHTWARDS ARROWaDOWNWA
RDS ARROWaLEFT RIGHT ARROWaUP DOWN ARROWaNORTH WEST ARROWbEAST ARROWaSOUTH EAST ARROWbWEST ARRO
WaLEFTWARDS ARROW WITH STROKEaRIGHTWARDS ARROW WITH STROKEaLEFTWARDS WAVE ARROWaRIGHTWARDS WAV
E ARROWaLEFTWARDS TWO HEADED ARROWaUPWARDS TWO HEADED ARROWaRIGHTWARDS TWO HEADED ARROWaDOWNWAR
DS TWO HEADED ARROWaLEFTWARDS ARROW WITH TAILaRIGHTWARDS ARROW WITH TAILaLEFTWARDS ARROW FROM B
ARaUPWARDS ARROW FROM BARaRIGHTWARDS ARROW FROM BARaDOWNWARDS ARROW FROM BARaUP DOWN ARROW WIT
H BASEaLEFTWARDS ARROW WITH HOOKaRIGHTWARDS ARROW WITH HOOKaLEFTWARDS ARROW WITH LOOPaRIGHTWARD
S ARROW WITH LOOPaLEFT RIGHT WAVE ARROWcARROW WITH STROKEaDOWNWARDS ZIGZAG ARROWaUPWARDS ARRO
W WITH TIP LEFTWARDSeRIGHTWARDSaDOWNWARDS ARROW WITH TIP LEFTWARDSeRIGHTWARDSaRIGHTWARDS ARRO
W WITH CORNER DOWNWARDSaDOWNWARDS ARROW WITH CORNER LEFTWARDSaANTICLOCKWISE TOP SEMICIRCLE ARRO
WaCLOCKWISE TOP SEMICIRCLE ARROWaNORTH WEST ARROW TO LONG BARaLEFTWARDS ARROW TO BAR OVER RIGHT
WARDS ARROW TO BARaANTICLOCKWISE OPEN CIRCLE ARROWaCLOCKWISE OPEN CIRCLE ARROWaLEFTWARDS HARPOO
N WITH BARB UPWARDSeDOWNWARDSaUPWARDS HARPOON WITH BARB RIGHTWARDSeLEFTWARDSaRIGHTWARDS HARPOO
N WITH BARB UPWARDSeDOWNWARDSaDOWNWARDS HARPOON WITH BARB RIGHTWARDSeLEFTWARDSaRIGHTWARDS ARRO
W OVER LEFTWARDS ARROWaUPWARDS ARROW LEFTWARDS OF DOWNWARDS ARROWaLEFTWARDS ARROW OVER RIGHTWAR
DS ARROWbPAIRED ARROWSaUPWARDS PAIRED ARROWSaRIGHTWARDS PAIRED ARROWSaDOWNWARDS PAIRED ARROWSaL
EFTWARDS HARPOON OVER RIGHTWARDS HARPOONaRIGHTWARDS HARPOON OVER LEFTWARDS HARPOONaLEFTWARDS DO
UBLE ARROW WITH STROKEaLEFT RIGHT DOUBLE ARROW WITH STROKEaRIGHTWARDS DOUBLE ARROW WITH STROKEa
LEFTWARDS DOUBLE ARROWaUPWARDS DOUBLE ARROWaRIGHTWARDS DOUBLE ARROWaDOWNWARDS DOUBLE ARROWaLEF
T RIGHT DOUBLE ARROWaUP DOWN DOUBLE ARROWaNORTH WEST DOUBLE ARROWbEAST DOUBLE ARROWaSOUTH EAS
T DOUBLE ARROWbWEST DOUBLE ARROWaLEFTWARDS TRIPLE ARROWaRIGHTWARDS TRIPLE ARROWaLEFTWARDS SQUIG
GLE ARROWaRIGHTWARDS SQUIGGLE ARROWaUPWARDS ARROW WITH DOUBLE STROKEaDOWNWARDS ARROW WITH DOUBL
E STROKEaLEFTWARDS DASHED ARROWaUPWARDS DASHED ARROWaRIGHTWARDS DASHED ARROWaDOWNWARDS DASHED A
RROWaLEFTWARDS ARROW TO BARaRIGHTWARDS ARROW TO BARaLEFTWARDS WHITE ARROWaUPWARDS WHITE ARROWaR
IGHTWARDS WHITE ARROWaDOWNWARDS WHITE ARROWaUPWARDS WHITE ARROW FROM BARdON PEDESTALfWITH HORIZ
ONTAL BARgVERTICAL BARcDOUBLE ARROWeON PEDESTALaRIGHTWARDS WHITE ARROW FROM WALLaNORTH WEST ARR
OW TO CORNERaSOUTH EAST ARROW TO CORNERaUP DOWN WHITE ARROWaRIGHT ARROW WITH SMALL CIRCLEaDOWNW
ARDS ARROW LEFTWARDS OF UPWARDS ARROWaTHREE RIGHTWARDS ARROWSaLEFTWARDS ARROW WITH VERTICAL STR
OKEaRIGHTWARDS ARROW WITH VERTICAL STROKEaLEFT RIGHT ARROW WITH VERTICAL STROKEaLEFTWARDS ARRO
W WITH DOUBLE VERTICAL STROKEaRIGHTWARDS ARROW WITH DOUBLE VERTICAL STROKEaLEFT RIGHT ARROW WIT
H DOUBLE VERTICAL STROKEaLEFTWARDS OPEN-HEADED ARROWaRIGHTWARDS OPEN-HEADED ARROWaLEFT RIGHT OP
EN-HEADED ARROWaFOR ALLaCOMPLEMENTaPARTIAL DIFFERENTIALaTHERE EXISTSbDOES NOT EXISTaEMPTY SETaI
NCREMENTaNABLAaELEMENT OFaNOT AN ELEMENT OFaSMALL ELEMENT OFaCONTAINS AS MEMBERaDOES NOT CONTAI
N AS MEMBERaSMALL CONTAINS AS MEMBERaEND OF PROOFaN-ARY PRODUCTbCOPRODUCTbSUMMATIONaMINUS SIGNa
MINUS-OR-PLUS SIGNaDOT PLUSaDIVISION SLASHaSET MINUSaASTERISK OPERATORaRING OPERATORaBULLET OPE
RATORaSQUARE ROOTaCUBE ROOTaFOURTH ROOTaPROPORTIONAL TOaINFINITYaRIGHT ANGLEaANGLEaMEASURED ANG
LEaSPHERICAL ANGLEaDIVIDESaDOES NOT DIVIDEaPARALLEL TOaNOT PARALLEL TOaLOGICAL ANDbORaINTERSECT
IONaUNIONaINTEGRALaDOUBLE INTEGRALaTRIPLE INTEGRALaCONTOUR INTEGRALaSURFACE INTEGRALaVOLUME INT
EGRALaCLOCKWISE INTEGRALbCONTOUR INTEGRALaANTICLOCKWISE CONTOUR INTEGRALaTHEREFOREaBECAUSEaRATI
OaPROPORTIONaDOT MINUSaEXCESSaGEOMETRIC PROPORTIONaHOMOTHETICaTILDE OPERATORaREVERSED TILDEaINV
ERTED LAZY SaSINE WAVEaWREATH PRODUCTaNOT TILDEaMINUS TILDEaASYMPTOTICALLY EQUAL TOaNOT ASYMPTO
TICALLY EQUAL TOaAPPROXIMATELY EQUAL TObBUT NOT ACTUALLY EQUAL TOaNEITHER APPROXIMATELY NOR ACT
UALLY EQUAL TOaALMOST EQUAL TOaNOT ALMOST EQUAL TOaALMOST EQUAL OR EQUAL TOaTRIPLE TILDEaALL EQ
UAL TOaEQUIVALENT TOaGEOMETRICALLY EQUIVALENT TOaDIFFERENCE BETWEENaAPPROACHES THE LIMITaGEOMET
RICALLY EQUAL TOaAPPROXIMATELY EQUAL TO OR THE IMAGE OFaIMAGE OF OR APPROXIMATELY EQUAL TOaCOLO
N EQUALSaEQUALS COLONaRING IN EQUAL TObEQUAL TOaCORRESPONDS TOaESTIMATESaEQUIANGULAR TOaSTAR EQ
UALSaDELTA EQUAL TOaEQUAL TO BY DEFINITIONaMEASURED BYaQUESTIONED EQUAL TOaNOT EQUAL TOaIDENTIC
AL TOaNOT IDENTICAL TOaSTRICTLY EQUIVALENT TOaLESS-THAN OR EQUAL TOaGREATER-THAN OR EQUAL TOaLE
SS-THAN OVER EQUAL TOaGREATER-THAN OVER EQUAL TOaLESS-THAN BUT NOT EQUAL TOaGREATER-THAN BUT NO
T EQUAL TOaMUCH LESS-THANbGREATER-THANaBETWEENaNOT EQUIVALENT TObLESS-THANbGREATER-THANaNEITHE
R LESS-THAN NOR EQUAL TObGREATER-THAN NOR EQUAL TOaLESS-THAN OR EQUIVALENT TOaGREATER-THAN OR E
QUIVALENT TOaNEITHER LESS-THAN NOR EQUIVALENT TObGREATER-THAN NOR EQUIVALENT TOaLESS-THAN OR GR
EATER-THANaGREATER-THAN OR LESS-THANaNEITHER LESS-THAN NOR GREATER-THANbGREATER-THAN NOR LESS-T
HANaPRECEDESaSUCCEEDSaPRECEDES OR EQUAL TOaSUCCEEDS OR EQUAL TOaPRECEDES OR EQUIVALENT TOaSUCCE
EDS OR EQUIVALENT TOaDOES NOT PRECEDEcSUCCEEDaSUBSET OFaSUPERSET OFaNOT A SUBSET OFcSUPERSET OF
aSUBSET OF OR EQUAL TOaSUPERSET OF OR EQUAL TOaNEITHER A SUBSET OF NOR EQUAL TOcSUPERSET OF NO
R EQUAL TOaSUBSET OF WITH NOT EQUAL TOaSUPERSET OF WITH NOT EQUAL TOaMULTISETbMULTIPLICATIONbUN
IONaSQUARE IMAGE OFbORIGINAL OFbIMAGE OF OR EQUAL TObORIGINAL OF OR EQUAL TObCAPbCUPaCIRCLED PL
USbMINUSbTIMESbDIVISION SLASHbDOT OPERATORbRING OPERATORbASTERISK OPERATORbEQUALSbDASHaSQUARE
D PLUSbMINUSbTIMESbDOT OPERATORaRIGHT TACKaLEFT TACKaDOWN TACKaUP TACKaASSERTIONaMODELSaTRUEaFO
RCESaTRIPLE VERTICAL BAR RIGHT TURNSTILEaDOUBLE VERTICAL BAR DOUBLE RIGHT TURNSTILEaDOES NOT PR
OVEaNOT TRUEaDOES NOT FORCEaNEGATED DOUBLE VERTICAL BAR DOUBLE RIGHT TURNSTILEaPRECEDES UNDER R
ELATIONaSUCCEEDS UNDER RELATIONaNORMAL SUBGROUP OFaCONTAINS AS NORMAL SUBGROUPaNORMAL SUBGROU
P OF OR EQUAL TOaCONTAINS AS NORMAL SUBGROUP OR EQUAL TOaORIGINAL OFaIMAGE OFaMULTIMAPaHERMITIA
N CONJUGATE MATRIXaINTERCALATEaXORaNANDaNORaRIGHT ANGLE WITH ARCbTRIANGLEaN-ARY LOGICAL ANDcORb
INTERSECTIONbUNIONaDIAMOND OPERATORaDOT OPERATORaSTAR OPERATORaDIVISION TIMESaBOWTIEaLEFT NORMA
L FACTOR SEMIDIRECT PRODUCTaRIGHT NORMAL FACTOR SEMIDIRECT PRODUCTaLEFT SEMIDIRECT PRODUCTaRIGH
T SEMIDIRECT PRODUCTaREVERSED TILDE EQUALSaCURLY LOGICAL ORcANDaDOUBLE SUBSETbSUPERSETbINTERSEC
TIONbUNIONaPITCHFORKaEQUAL AND PARALLEL TOaLESS-THAN WITH DOTaGREATER-THAN WITH DOTaVERY MUCH L
ESS-THANcGREATER-THANaLESS-THAN EQUAL TO OR GREATER-THANaGREATER-THAN EQUAL TO OR LESS-THANaEQU
AL TO OR LESS-THANdGREATER-THANdPRECEDESdSUCCEEDSaDOES NOT PRECEDE OR EQUALcSUCCEED OR EQUALaNO
T SQUARE IMAGE OF OR EQUAL TOcORIGINAL OF OR EQUAL TOaSQUARE IMAGE OF OR NOT EQUAL TObORIGINA
L OF OR NOT EQUAL TOaLESS-THAN BUT NOT EQUIVALENT TOaGREATER-THAN BUT NOT EQUIVALENT TOaPRECEDE
S BUT NOT EQUIVALENT TOaSUCCEEDS BUT NOT EQUIVALENT TOaNOT NORMAL SUBGROUP OFaDOES NOT CONTAI
N AS NORMAL SUBGROUPaNOT NORMAL SUBGROUP OF OR EQUAL TOaDOES NOT CONTAIN AS NORMAL SUBGROUP O
R EQUALaVERTICAL ELLIPSISaMIDLINE HORIZONTAL ELLIPSISaUP RIGHT DIAGONAL ELLIPSISaDOWN RIGHT DIA
GONAL ELLIPSISaELEMENT OF WITH LONG HORIZONTAL STROKEdVERTICAL BAR AT END OF HORIZONTAL STROKEa
SMALL ELEMENT OF WITH VERTICAL BAR AT END OF HORIZONTAL STROKEaELEMENT OF WITH DOT ABOVEdOVERBA
RaSMALL ELEMENT OF WITH OVERBARaELEMENT OF WITH UNDERBARdTWO HORIZONTAL STROKESaCONTAINS WITH L
ONG HORIZONTAL STROKEcVERTICAL BAR AT END OF HORIZONTAL STROKEaSMALL CONTAINS WITH VERTICAL BA
R AT END OF HORIZONTAL STROKEaCONTAINS WITH OVERBARaSMALL CONTAINS WITH OVERBARaZ NOTATION BA
G MEMBERSHIPaDIAMETER SIGNaELECTRIC ARROWaHOUSEaUP ARROWHEADaDOWN ARROWHEADaPROJECTIVEaPERSPECT
IVEaWAVY LINEaLEFT CEILINGaRIGHT CEILINGaLEFT FLOORaRIGHT FLOORaBOTTOM RIGHT CROPbLEFT CROPaTO
P RIGHT CROPbLEFT CROPaREVERSED NOT SIGNaSQUARE LOZENGEaARCaSEGMENTaSECTORaTELEPHONE RECORDERaP
OSITION INDICATORaVIEWDATA SQUAREaPLACE OF INTEREST SIGNaTURNED NOT SIGNaWATCHaHOURGLASSaTOP LE
FT CORNERbRIGHT CORNERaBOTTOM LEFT CORNERbRIGHT CORNERaTOP HALF INTEGRALaBOTTOM HALF INTEGRALaF
ROWNaSMILEaUP ARROWHEAD BETWEEN TWO HORIZONTAL BARSaOPTION KEYaERASE TO THE RIGHTaX IN A RECTAN
GLE BOXaKEYBOARDaLEFT-POINTING ANGLE BRACKETaRIGHT-POINTING ANGLE BRACKETaERASE TO THE LEFTaBEN
ZENE RINGaCYLINDRICITYaALL AROUND-PROFILEaSYMMETRYaTOTAL RUNOUTaDIMENSION ORIGINaCONICAL TAPERa
SLOPEaCOUNTERBOREaCOUNTERSINKaAPL FUNCTIONAL SYMBOL I-BEAMdSQUISH QUADdQUAD EQUALeDIVIDEeDIAMON
DeJOTeCIRCLEdCIRCLE STILEeJOTdSLASH BARdBACKSLASH BARdQUAD SLASHeBACKSLASHeLESS-THANeGREATER-TH
ANdLEFTWARDS VANEdRIGHTWARDS VANEdQUAD LEFTWARDS ARROWeRIGHTWARDS ARROWdCIRCLE BACKSLASHdDOWN T
ACK UNDERBARdDELTA STILEdQUAD DOWN CARETeDELTAdDOWN TACK JOTdUPWARDS VANEdQUAD UPWARDS ARROWdU
P TACK OVERBARdDEL STILEdQUAD UP CARETeDELdUP TACK JOTdDOWNWARDS VANEdQUAD DOWNWARDS ARROWdQUOT
E UNDERBARdDELTA UNDERBARdDIAMOND UNDERBARdJOT UNDERBARdCIRCLE UNDERBARdUP SHOE JOTdQUOTE QUADd
CIRCLE STARdQUAD COLONdUP TACK DIAERESISdDEL DIAERESISdSTAR DIAERESISdJOT DIAERESISdCIRCLE DIAE
RESISdDOWN SHOE STILEdLEFT SHOE STILEdTILDE DIAERESISdGREATER-THAN DIAERESISdCOMMA BARdDEL TILD
EdZILDEdSTILE TILDEdSEMICOLON UNDERBARdQUAD NOT EQUALeQUESTIONdDOWN CARET TILDEdUP CARET TILDEd
IOTAdRHOdOMEGAdALPHA UNDERBARdEPSILON UNDERBARdIOTA UNDERBARdOMEGA UNDERBARdALPHAaNOT CHECK MAR
KaRIGHT ANGLE WITH DOWNWARDS ZIGZAG ARROWaSHOULDERED OPEN BOXaBELL SYMBOLaVERTICAL LINE WITH MI
DDLE DOTaINSERTION SYMBOLaCONTINUOUS UNDERLINE SYMBOLaDISCONTINUOUS UNDERLINE SYMBOLaEMPHASIS S
YMBOLaCOMPOSITION SYMBOLaWHITE SQUARE WITH CENTRE VERTICAL LINEaENTER SYMBOLaALTERNATIVE KEY SY
MBOLaHELM SYMBOLaCIRCLED HORIZONTAL BAR WITH NOTCHbTRIANGLE DOWNaBROKEN CIRCLE WITH NORTHWEST A
RROWaUNDO SYMBOLaMONOSTABLE SYMBOLaHYSTERESIS SYMBOLaOPEN-CIRCUIT-OUTPUT H-TYPE SYMBOLbL-TYPE S
YMBOLaPASSIVE-PULL-DOWN-OUTPUT SYMBOLaPASSIVE-PULL-UP-OUTPUT SYMBOLaDIRECT CURRENT SYMBOL FOR
M TWOaSOFTWARE-FUNCTION SYMBOLaAPL FUNCTIONAL SYMBOL QUADaDECIMAL SEPARATOR KEY SYMBOLaPREVIOU
S PAGEaNEXT PAGEaPRINT SCREEN SYMBOLaCLEAR SCREEN SYMBOLaLEFT PARENTHESIS UPPER HOOKcEXTENSIONc
LOWER HOOKaRIGHT PARENTHESIS UPPER HOOKcEXTENSIONcLOWER HOOKaLEFT SQUARE BRACKET UPPER CORNERdE
XTENSIONdLOWER CORNERaRIGHT SQUARE BRACKET UPPER CORNERdEXTENSIONdLOWER CORNERaLEFT CURLY BRACK
ET UPPER HOOKdMIDDLE PIECEdLOWER HOOKaCURLY BRACKET EXTENSIONaRIGHT CURLY BRACKET UPPER HOOKdMI
DDLE PIECEdLOWER HOOKaINTEGRAL EXTENSIONaHORIZONTAL LINE EXTENSIONaUPPER LEFT OR LOWER RIGHT CU
RLY BRACKET SECTIONbRIGHT OR LOWER LEFT CURLY BRACKET SECTIONaSUMMATION TOPbBOTTOMaTOP SQUARE B
RACKETaBOTTOM SQUARE BRACKETdOVER TOP SQUARE BRACKETaRADICAL SYMBOL BOTTOMaLEFT VERTICAL BOX LI
NEaRIGHT VERTICAL BOX LINEaHORIZONTAL SCAN LINE-1cLINE-3cLINE-7cLINE-9aDENTISTRY SYMBOL LIGHT V
ERTICAL AND TOP RIGHTfBOTTOM RIGHTeWITH CIRCLEdDOWN AND HORIZONTAL WITH CIRCLEdUP AND HORIZONTA
L WITH CIRCLEdVERTICAL WITH TRIANGLEdDOWN AND HORIZONTAL WITH TRIANGLEdUP AND HORIZONTAL WITH T
RIANGLEdVERTICAL AND WAVEdDOWN AND HORIZONTAL WITH WAVEdUP AND HORIZONTAL WITH WAVEdDOWN AND HO
RIZONTALdUP AND HORIZONTALdVERTICAL AND TOP LEFTfBOTTOM LEFTaSQUARE FOOTaRETURN SYMBOLaEJECT SY
MBOLaVERTICAL LINE EXTENSIONaMETRICAL BREVEbLONG OVER SHORTbSHORT OVER LONGbLONG OVER TWO SHORT
SbTWO SHORTS OVER LONGdJOINEDbTRISEMEbTETRASEMEbPENTASEMEaEARTH GROUNDaFUSEaTOP PARENTHESISaBOT
TOM PARENTHESISaTOP CURLY BRACKETaBOTTOM CURLY BRACKETaTOP TORTOISE SHELL BRACKETaBOTTOM TORTOI
SE SHELL BRACKETaWHITE TRAPEZIUMaBENZENE RING WITH CIRCLEaSTRAIGHTNESSaFLATNESSaAC CURRENTaELEC
TRICAL INTERSECTIONaDECIMAL EXPONENT SYMBOLaBLACK RIGHT-POINTING DOUBLE TRIANGLEbLEFT-POINTIN
G DOUBLE TRIANGLEbUP-POINTING DOUBLE TRIANGLEbDOWN-POINTING DOUBLE TRIANGLEbRIGHT-POINTING DOUB
LE TRIANGLE WITH VERTICAL BARbLEFT-POINTING DOUBLE TRIANGLE WITH VERTICAL BARbRIGHT-POINTING TR
IANGLE WITH DOUBLE VERTICAL BARaALARM CLOCKaSTOPWATCHaTIMER CLOCKaHOURGLASS WITH FLOWING SANDaB
LACK MEDIUM LEFT-POINTING TRIANGLEcRIGHT-POINTING TRIANGLEcUP-POINTING TRIANGLEcDOWN-POINTING T
RIANGLEaDOUBLE VERTICAL BARaBLACK SQUARE FOR STOPbCIRCLE FOR RECORDaPOWER SYMBOLbON-OFF SYMBOLb
ON SYMBOLbSLEEP SYMBOLaOBSERVER EYE SYMBOLaSYMBOL FOR NULLcSTART OF HEADINGeTEXTcEND OF TEXTeTR
ANSMISSIONcENQUIRYcACKNOWLEDGEcBELLcBACKSPACEcHORIZONTAL TABULATIONcLINE FEEDcVERTICAL TABULATI
ONcFORM FEEDcCARRIAGE RETURNcSHIFT OUTdINcDATA LINK ESCAPEcDEVICE CONTROL ONEeTWOeTHREEeFOURcNE
GATIVE ACKNOWLEDGEcSYNCHRONOUS IDLEcEND OF TRANSMISSION BLOCKcCANCELcEND OF MEDIUMcSUBSTITUTEcE
SCAPEcFILE SEPARATORcGROUP SEPARATORcRECORD SEPARATORcUNIT SEPARATORcSPACEcDELETEaBLANK SYMBOLa
OPEN BOXaSYMBOL FOR NEWLINEcDELETE FORM TWOcSUBSTITUTE FORM TWO@2440aOCR HOOKbCHAIRbFORKbINVERT
ED FORKbBELT BUCKLEbBOW TIEbBRANCH BANK IDENTIFICATIONbAMOUNT OF CHECKbDASH@2448aMICR ON US SYM
BOLaOCR CUSTOMER ACCOUNT NUMBER@2449aMICR DASH SYMBOLaOCR DOUBLE BACKSLASH@2460aCIRCLED DIGIT O
NEcTWOcTHREEcFOURcFIVEcSIXcSEVENcEIGHTcNINEbNUMBER TENcELEVENcTWELVEcTHIRTEENcFOURTEENcFIFTEENc
SIXTEENcSEVENTEENcEIGHTEENcNINETEENcTWENTYaPARENTHESIZED DIGIT ONEcTWOcTHREEcFOURcFIVEcSIXcSEVE
NcEIGHTcNINEbNUMBER TENcELEVENcTWELVEcTHIRTEENcFOURTEENcFIFTEENcSIXTEENcSEVENTEENcEIGHTEENcNINE
TEENcTWENTYaDIGIT ONE FULL STOPbTWO FULL STOPbTHREE FULL STOPbFOUR FULL STOPbFIVE FULL STOPbSI
X FULL STOPbSEVEN FULL STOPbEIGHT FULL STOPbNINE FULL STOPaNUMBER TEN FULL STOPbELEVEN FULL STO
PbTWELVE FULL STOPbTHIRTEEN FULL STOPbFOURTEEN FULL STOPbFIFTEEN FULL STOPbSIXTEEN FULL STOPbSE
VENTEEN FULL STOPbEIGHTEEN FULL STOPbNINETEEN FULL STOPbTWENTY FULL STOPaPARENTHESIZED LATIN SM
ALL LETTER AeBeCeDeEeFeGeHeIeJeKeLeMeNeOePeQeReSeTeUeVeWeXeYeZaCIRCLED LATIN CAPITAL LETTER AeB
eCeDeEeFeGeHeIeJeKeLeMeNeOePeQeReSeTeUeVeWeXeYeZcSMALL LETTER AeBeCeDeEeFeGeHeIeJeKeLeMeNeOePeQ
eReSeTeUeVeWeXeYeZbDIGIT ZEROaNEGATIVE CIRCLED NUMBER ELEVENdTWELVEdTHIRTEENdFOURTEENdFIFTEENdS
IXTEENdSEVENTEENdEIGHTEENdNINETEENdTWENTYaDOUBLE CIRCLED DIGIT ONEdTWOdTHREEdFOURdFIVEdSIXdSEVE
NdEIGHTdNINEcNUMBER TENaNEGATIVE CIRCLED DIGIT ZEROaBOX DRAWINGS LIGHT HORIZONTALcHEAVY HORIZON
TALcLIGHT VERTICALcHEAVY VERTICALcLIGHT TRIPLE DASH HORIZONTALcHEAVY TRIPLE DASH HORIZONTALcLIG
HT TRIPLE DASH VERTICALcHEAVY TRIPLE DASH VERTICALcLIGHT QUADRUPLE DASH HORIZONTALcHEAVY QUADRU
PLE DASH HORIZONTALcLIGHT QUADRUPLE DASH VERTICALcHEAVY QUADRUPLE DASH VERTICALcLIGHT DOWN AN
D RIGHTcDOWN LIGHT AND RIGHT HEAVYdHEAVY AND RIGHT LIGHTcHEAVY DOWN AND RIGHTcLIGHT DOWN AND LE
FTcDOWN LIGHT AND LEFT HEAVYdHEAVY AND LEFT LIGHTcHEAVY DOWN AND LEFTcLIGHT UP AND RIGHTcUP LIG
HT AND RIGHT HEAVYdHEAVY AND RIGHT LIGHTcHEAVY UP AND RIGHTcLIGHT UP AND LEFTcUP LIGHT AND LEF
T HEAVYdHEAVY AND LEFT LIGHTcHEAVY UP AND LEFTcLIGHT VERTICAL AND RIGHTcVERTICAL LIGHT AND RIGH
T HEAVYcUP HEAVY AND RIGHT DOWN LIGHTcDOWN HEAVY AND RIGHT UP LIGHTcVERTICAL HEAVY AND RIGHT LI
GHTcDOWN LIGHT AND RIGHT UP HEAVYcUP LIGHT AND RIGHT DOWN HEAVYcHEAVY VERTICAL AND RIGHTcLIGH
T VERTICAL AND LEFTcVERTICAL LIGHT AND LEFT HEAVYcUP HEAVY AND LEFT DOWN LIGHTcDOWN HEAVY AND L
EFT UP LIGHTcVERTICAL HEAVY AND LEFT LIGHTcDOWN LIGHT AND LEFT UP HEAVYcUP LIGHT AND LEFT DOW
N HEAVYcHEAVY VERTICAL AND LEFTcLIGHT DOWN AND HORIZONTALcLEFT HEAVY AND RIGHT DOWN LIGHTcRIGH
T HEAVY AND LEFT DOWN LIGHTcDOWN LIGHT AND HORIZONTAL HEAVYdHEAVY AND HORIZONTAL LIGHTcRIGHT LI
GHT AND LEFT DOWN HEAVYcLEFT LIGHT AND RIGHT DOWN HEAVYcHEAVY DOWN AND HORIZONTALcLIGHT UP AN
D HORIZONTALcLEFT HEAVY AND RIGHT UP LIGHTcRIGHT HEAVY AND LEFT UP LIGHTcUP LIGHT AND HORIZONTA
L HEAVYdHEAVY AND HORIZONTAL LIGHTcRIGHT LIGHT AND LEFT UP HEAVYcLEFT LIGHT AND RIGHT UP HEAVYc
HEAVY UP AND HORIZONTALcLIGHT VERTICAL AND HORIZONTALcLEFT HEAVY AND RIGHT VERTICAL LIGHTcRIGH
T HEAVY AND LEFT VERTICAL LIGHTcVERTICAL LIGHT AND HORIZONTAL HEAVYcUP HEAVY AND DOWN HORIZONTA
L LIGHTcDOWN HEAVY AND UP HORIZONTAL LIGHTcVERTICAL HEAVY AND HORIZONTAL LIGHTcLEFT UP HEAVY AN
D RIGHT DOWN LIGHTcRIGHT UP HEAVY AND LEFT DOWN LIGHTcLEFT DOWN HEAVY AND RIGHT UP LIGHTcRIGH
T DOWN HEAVY AND LEFT UP LIGHTcDOWN LIGHT AND UP HORIZONTAL HEAVYcUP LIGHT AND DOWN HORIZONTA
L HEAVYcRIGHT LIGHT AND LEFT VERTICAL HEAVYcLEFT LIGHT AND RIGHT VERTICAL HEAVYcHEAVY VERTICA
L AND HORIZONTALcLIGHT DOUBLE DASH HORIZONTALcHEAVY DOUBLE DASH HORIZONTALcLIGHT DOUBLE DASH VE
RTICALcHEAVY DOUBLE DASH VERTICALcDOUBLE HORIZONTALdVERTICALcDOWN SINGLE AND RIGHT DOUBLEdDOUBL
E AND RIGHT SINGLEcDOUBLE DOWN AND RIGHTcDOWN SINGLE AND LEFT DOUBLEdDOUBLE AND LEFT SINGLEcDOU
BLE DOWN AND LEFTcUP SINGLE AND RIGHT DOUBLEdDOUBLE AND RIGHT SINGLEcDOUBLE UP AND RIGHTcUP SIN
GLE AND LEFT DOUBLEdDOUBLE AND LEFT SINGLEcDOUBLE UP AND LEFTcVERTICAL SINGLE AND RIGHT DOUBLEd
DOUBLE AND RIGHT SINGLEcDOUBLE VERTICAL AND RIGHTcVERTICAL SINGLE AND LEFT DOUBLEdDOUBLE AND LE
FT SINGLEcDOUBLE VERTICAL AND LEFTcDOWN SINGLE AND HORIZONTAL DOUBLEdDOUBLE AND HORIZONTAL SING
LEcDOUBLE DOWN AND HORIZONTALcUP SINGLE AND HORIZONTAL DOUBLEdDOUBLE AND HORIZONTAL SINGLEcDOUB
LE UP AND HORIZONTALcVERTICAL SINGLE AND HORIZONTAL DOUBLEdDOUBLE AND HORIZONTAL SINGLEcDOUBL
E VERTICAL AND HORIZONTALcLIGHT ARC DOWN AND RIGHTgLEFTeUP AND LEFTgRIGHTdDIAGONAL UPPER RIGH
T TO LOWER LEFTfLEFT TO LOWER RIGHTeCROSSdLEFTdUPdRIGHTdDOWNcHEAVY LEFTdUPdRIGHTdDOWNcLIGHT LEF
T AND HEAVY RIGHTdUP AND HEAVY DOWNcHEAVY LEFT AND LIGHT RIGHTdUP AND LIGHT DOWNaUPPER HALF BLO
CKaLOWER ONE EIGHTH BLOCKcQUARTER BLOCKbTHREE EIGHTHS BLOCKbHALF BLOCKbFIVE EIGHTHS BLOCKbTHRE
E QUARTERS BLOCKbSEVEN EIGHTHS BLOCKaFULL BLOCKaLEFT SEVEN EIGHTHS BLOCKbTHREE QUARTERS BLOCKbF
IVE EIGHTHS BLOCKbHALF BLOCKbTHREE EIGHTHS BLOCKbONE QUARTER BLOCKcEIGHTH BLOCKaRIGHT HALF BLOC
KaLIGHT SHADEaMEDIUM SHADEaDARK SHADEaUPPER ONE EIGHTH BLOCKaRIGHT ONE EIGHTH BLOCKaQUADRANT LO
WER LEFTcRIGHTbUPPER LEFTdAND LOWER LEFT AND LOWER RIGHTfRIGHTeUPPER RIGHT AND LOWER LEFTiRIGHT
cRIGHTdAND LOWER LEFTgAND LOWER RIGHTaBLACK SQUAREaWHITE SQUAREcWITH ROUNDED CORNERScCONTAININ
G BLACK SMALL SQUAREaSQUARE WITH HORIZONTAL FILLcVERTICAL FILLcORTHOGONAL CROSSHATCH FILLcUPPE
R LEFT TO LOWER RIGHT FILLdRIGHT TO LOWER LEFT FILLcDIAGONAL CROSSHATCH FILLaBLACK SMALL SQUARE
aWHITE SMALL SQUAREaBLACK RECTANGLEaWHITE RECTANGLEaBLACK VERTICAL RECTANGLEaWHITE VERTICAL REC
TANGLEaBLACK PARALLELOGRAMaWHITE PARALLELOGRAMaBLACK UP-POINTING TRIANGLEaWHITE UP-POINTING TRI
ANGLEaBLACK UP-POINTING SMALL TRIANGLEaWHITE UP-POINTING SMALL TRIANGLEaBLACK RIGHT-POINTING TR
IANGLEaWHITE RIGHT-POINTING TRIANGLEaBLACK RIGHT-POINTING SMALL TRIANGLEaWHITE RIGHT-POINTING S
MALL TRIANGLEaBLACK RIGHT-POINTING POINTERaWHITE RIGHT-POINTING POINTERaBLACK DOWN-POINTING TRI
ANGLEaWHITE DOWN-POINTING TRIANGLEaBLACK DOWN-POINTING SMALL TRIANGLEaWHITE DOWN-POINTING SMAL
L TRIANGLEaBLACK LEFT-POINTING TRIANGLEaWHITE LEFT-POINTING TRIANGLEaBLACK LEFT-POINTING SMAL
L TRIANGLEaWHITE LEFT-POINTING SMALL TRIANGLEaBLACK LEFT-POINTING POINTERaWHITE LEFT-POINTING P
OINTERaBLACK DIAMONDaWHITE DIAMONDcCONTAINING BLACK SMALL DIAMONDaFISHEYEaLOZENGEaWHITE CIRCLEa
DOTTED CIRCLEaCIRCLE WITH VERTICAL FILLaBULLSEYEaBLACK CIRCLEaCIRCLE WITH LEFT HALF BLACKcRIGH
T HALF BLACKcLOWER HALF BLACKcUPPER HALF BLACKdRIGHT QUADRANT BLACKcALL BUT UPPER LEFT QUADRAN
T BLACKaLEFT HALF BLACK CIRCLEaRIGHT HALF BLACK CIRCLEaINVERSE BULLETbWHITE CIRCLEaUPPER HALF I
NVERSE WHITE CIRCLEaLOWER HALF INVERSE WHITE CIRCLEaUPPER LEFT QUADRANT CIRCULAR ARCbRIGHT QUAD
RANT CIRCULAR ARCaLOWER RIGHT QUADRANT CIRCULAR ARCbLEFT QUADRANT CIRCULAR ARCaUPPER HALF CIRCL
EaLOWER HALF CIRCLEaBLACK LOWER RIGHT TRIANGLEcLEFT TRIANGLEbUPPER LEFT TRIANGLEcRIGHT TRIANGLE
aWHITE BULLETaSQUARE WITH LEFT HALF BLACKcRIGHT HALF BLACKcUPPER LEFT DIAGONAL HALF BLACKcLOWE
R RIGHT DIAGONAL HALF BLACKaWHITE SQUARE WITH VERTICAL BISECTING LINEbUP-POINTING TRIANGLE WIT
H DOTaUP-POINTING TRIANGLE WITH LEFT HALF BLACKdRIGHT HALF BLACKaLARGE CIRCLEaWHITE SQUARE WIT
H UPPER LEFT QUADRANTdLOWER LEFT QUADRANTeRIGHT QUADRANTdUPPER RIGHT QUADRANTbCIRCLE WITH UPPE
R LEFT QUADRANTdLOWER LEFT QUADRANTeRIGHT QUADRANTdUPPER RIGHT QUADRANTaUPPER LEFT TRIANGLEbRIG
HT TRIANGLEaLOWER LEFT TRIANGLEaWHITE MEDIUM SQUAREaBLACK MEDIUM SQUAREaWHITE MEDIUM SMALL SQUA
REaBLACK MEDIUM SMALL SQUAREaLOWER RIGHT TRIANGLEaBLACK SUN WITH RAYSaCLOUDaUMBRELLAaSNOWMANaCO
METaBLACK STARaWHITE STARaLIGHTNINGaTHUNDERSTORMaSUNaASCENDING NODEaDESCENDING NODEaCONJUNCTION
aOPPOSITIONaBLACK TELEPHONEaWHITE TELEPHONEaBALLOT BOXcWITH CHECKdXaSALTIREaUMBRELLA WITH RAI
N DROPSaHOT BEVERAGEaWHITE SHOGI PIECEaBLACK SHOGI PIECEaSHAMROCKaREVERSED ROTATED FLORAL HEAR
T BULLETaBLACK LEFT POINTING INDEXbRIGHT POINTING INDEXaWHITE LEFT POINTING INDEXbUP POINTING I
NDEXbRIGHT POINTING INDEXbDOWN POINTING INDEXaSKULL AND CROSSBONESaCAUTION SIGNaRADIOACTIVE SIG
NaBIOHAZARD SIGNaCADUCEUSaANKHaORTHODOX CROSSaCHI RHOaCROSS OF LORRAINEcJERUSALEMaSTAR AND CRES
CENTaFARSI SYMBOLaADI SHAKTIaHAMMER AND SICKLEaPEACE SYMBOLaYIN YANGaTRIGRAM FOR HEAVENcLAKEcFI
REcTHUNDERcWINDcWATERcMOUNTAINcEARTHaWHEEL OF DHARMAaWHITE FROWNING FACEbSMILING FACEaBLACK SMI
LING FACEaWHITE SUN WITH RAYSaFIRST QUARTER MOONaLAST QUARTER MOONaMERCURYaFEMALE SIGNaEARTHaMA
LE SIGNaJUPITERaSATURNaURANUSaNEPTUNEaPLUTOaARIESaTAURUSaGEMINIaCANCERaLEOaVIRGOaLIBRAaSCORPIUS
aSAGITTARIUSaCAPRICORNaAQUARIUSaPISCESaWHITE CHESS KINGcQUEENcROOKcBISHOPcKNIGHTcPAWNaBLACK CHE
SS KINGcQUEENcROOKcBISHOPcKNIGHTcPAWNbSPADE SUITaWHITE HEART SUITbDIAMOND SUITaBLACK CLUB SUITa
WHITE SPADE SUITaBLACK HEART SUITbDIAMOND SUITaWHITE CLUB SUITaHOT SPRINGSaQUARTER NOTEaEIGHT
H NOTEaBEAMED EIGHTH NOTESbSIXTEENTH NOTESaMUSIC FLAT SIGNbNATURAL SIGNbSHARP SIGNaWEST SYRIA
C CROSSaEAST SYRIAC CROSSaUNIVERSAL RECYCLING SYMBOLaRECYCLING SYMBOL FOR TYPE-1 PLASTICSdTYPE-
2 PLASTICSdTYPE-3 PLASTICSdTYPE-4 PLASTICSdTYPE-5 PLASTICSdTYPE-6 PLASTICSdTYPE-7 PLASTICSdGENE
RIC MATERIALSaBLACK UNIVERSAL RECYCLING SYMBOLaRECYCLED PAPER SYMBOLaPARTIALLY-RECYCLED PAPER S
YMBOLaPERMANENT PAPER SIGNaWHEELCHAIR SYMBOLaDIE FACE-1bFACE-2bFACE-3bFACE-4bFACE-5bFACE-6aWHIT
E CIRCLE WITH DOT RIGHTdTWO DOTSaBLACK CIRCLE WITH WHITE DOT RIGHTdTWO WHITE DOTSaMONOGRAM FO
R YANGcYINaDIGRAM FOR GREATER YANGcLESSER YINdYANGcGREATER YINaWHITE FLAGaBLACK FLAGaHAMMER AN
D PICKaANCHORaCROSSED SWORDSaSTAFF OF AESCULAPIUSaSCALESaALEMBICaFLOWERaGEARaSTAFF OF HERMESaAT
OM SYMBOLaFLEUR-DE-LISaOUTLINED WHITE STARaTHREE LINES CONVERGING RIGHTdLEFTaWARNING SIGNaHIG
H VOLTAGE SIGNaDOUBLED FEMALE SIGNbMALE SIGNaINTERLOCKED FEMALE AND MALE SIGNaMALE AND FEMALE S
IGNbWITH STROKE SIGNdAND MALE AND FEMALE SIGNaVERTICAL MALE WITH STROKE SIGNaHORIZONTAL MALE WI
TH STROKE SIGNaMEDIUM WHITE CIRCLEbBLACK CIRCLEbSMALL WHITE CIRCLEaMARRIAGE SYMBOLaDIVORCE SYMB
OLaUNMARRIED PARTNERSHIP SYMBOLaCOFFINaFUNERAL URNaNEUTERaCERESaPALLASaJUNOaVESTAaCHIRONaBLAC
K MOON LILITHaSEXTILEaSEMISEXTILEaQUINCUNXaSESQUIQUADRATEaSOCCER BALLaBASEBALLaSQUARED KEYaWHIT
E DRAUGHTS MANcKINGaBLACK DRAUGHTS MANcKINGaSNOWMAN WITHOUT SNOWaSUN BEHIND CLOUDaRAINaBLACK SN
OWMANaTHUNDER CLOUD AND RAINaTURNED WHITE SHOGI PIECEbBLACK SHOGI PIECEaWHITE DIAMOND IN SQUARE
aCROSSING LANESaDISABLED CARaOPHIUCHUSaPICKaCAR SLIDINGaHELMET WITH WHITE CROSSaCIRCLED CROSSIN
G LANESaCHAINSaNO ENTRYaALTERNATE ONE-WAY LEFT WAY TRAFFICaBLACK TWO-WAY LEFT WAY TRAFFICaWHIT
E TWO-WAY LEFT WAY TRAFFICaBLACK LEFT LANE MERGEaWHITE LEFT LANE MERGEaDRIVE SLOW SIGNaHEAVY WH
ITE DOWN-POINTING TRIANGLEaLEFT CLOSED ENTRYaSQUARED SALTIREaFALLING DIAGONAL IN WHITE CIRCLE I
N BLACK SQUAREaBLACK TRUCKaRESTRICTED LEFT ENTRY-1cENTRY-2aASTRONOMICAL SYMBOL FOR URANUSaHEAV
Y CIRCLE WITH STROKE AND TWO DOTS ABOVEaPENTAGRAMaRIGHT-HANDED INTERLACED PENTAGRAMaLEFT-HANDE
D INTERLACED PENTAGRAMaINVERTED PENTAGRAMaBLACK CROSS ON SHIELDaSHINTO SHRINEaCHURCHaCASTLEaHIS
TORIC SITEaGEAR WITHOUT HUBbWITH HANDLESaMAP SYMBOL FOR LIGHTHOUSEaMOUNTAINaUMBRELLA ON GROUNDa
FOUNTAINaFLAG IN HOLEaFERRYaSAILBOATaSQUARE FOUR CORNERSaSKIERaICE SKATEaPERSON WITH BALLaTENTa
JAPANESE BANK SYMBOLaHEADSTONE GRAVEYARD SYMBOLaFUEL PUMPaCUP ON BLACK SQUAREaWHITE FLAG WITH H
ORIZONTAL MIDDLE BLACK STRIPEaBLACK SAFETY SCISSORSaUPPER BLADE SCISSORSaBLACK SCISSORSaLOWER B
LADE SCISSORSaWHITE SCISSORSbHEAVY CHECK MARKaTELEPHONE LOCATION SIGNaTAPE DRIVEaAIRPLANEaENVEL
OPEaRAISED FISTbHANDaVICTORY HANDaWRITING HANDaLOWER RIGHT PENCILaPENCILaUPPER RIGHT PENCILaWHI
TE NIBaBLACK NIBaCHECK MARKaHEAVY CHECK MARKaMULTIPLICATION XaHEAVY MULTIPLICATION XaBALLOT XaH
EAVY BALLOT XaOUTLINED GREEK CROSSaHEAVY GREEK CROSSaOPEN CENTRE CROSSaHEAVY OPEN CENTRE CROSSa
LATIN CROSSaSHADOWED WHITE LATIN CROSSaOUTLINED LATIN CROSSaMALTESE CROSSaSTAR OF DAVIDaFOUR TE
ARDROP-SPOKED ASTERISKbBALLOON-SPOKED ASTERISKaHEAVY FOUR BALLOON-SPOKED ASTERISKaFOUR CLUB-SPO
KED ASTERISKaBLACK FOUR POINTED STARaWHITE FOUR POINTED STARaSPARKLESaSTRESS OUTLINED WHITE STA
RaCIRCLED WHITE STARaOPEN CENTRE BLACK STARaBLACK CENTRE WHITE STARaOUTLINED BLACK STARaHEAVY O
UTLINED BLACK STARaPINWHEEL STARaSHADOWED WHITE STARaHEAVY ASTERISKaOPEN CENTRE ASTERISKaEIGH
T SPOKED ASTERISKbPOINTED BLACK STARcPINWHEEL STARaSIX POINTED BLACK STARaEIGHT POINTED RECTILI
NEAR BLACK STARaHEAVY EIGHT POINTED RECTILINEAR BLACK STARaTWELVE POINTED BLACK STARaSIXTEEN PO
INTED ASTERISKaTEARDROP-SPOKED ASTERISKaOPEN CENTRE TEARDROP-SPOKED ASTERISKaHEAVY TEARDROP-SPO
KED ASTERISKaSIX PETALLED BLACK AND WHITE FLORETTEaBLACK FLORETTEaWHITE FLORETTEaEIGHT PETALLE
D OUTLINED BLACK FLORETTEaCIRCLED OPEN CENTRE EIGHT POINTED STARaHEAVY TEARDROP-SPOKED PINWHEE
L ASTERISKaSNOWFLAKEaTIGHT TRIFOLIATE SNOWFLAKEaHEAVY CHEVRON SNOWFLAKEaSPARKLEaHEAVY SPARKLEaB
ALLOON-SPOKED ASTERISKaEIGHT TEARDROP-SPOKED PROPELLER ASTERISKaHEAVY EIGHT TEARDROP-SPOKED PRO
PELLER ASTERISKaCROSS MARKaSHADOWED WHITE CIRCLEaNEGATIVE SQUARED CROSS MARKaLOWER RIGHT DROP-S
HADOWED WHITE SQUAREaUPPER RIGHT DROP-SHADOWED WHITE SQUAREaLOWER RIGHT SHADOWED WHITE SQUAREaU
PPER RIGHT SHADOWED WHITE SQUAREaBLACK QUESTION MARK ORNAMENTaWHITE QUESTION MARK ORNAMENTbEXCL
AMATION MARK ORNAMENTaBLACK DIAMOND MINUS WHITE XaHEAVY EXCLAMATION MARK SYMBOLaLIGHT VERTICA
L BARaMEDIUM VERTICAL BARaHEAVY VERTICAL BARbSINGLE TURNED COMMA QUOTATION MARK ORNAMENTcCOMM
A QUOTATION MARK ORNAMENTbDOUBLE TURNED COMMA QUOTATION MARK ORNAMENTcCOMMA QUOTATION MARK ORNA
MENTbLOW SINGLE COMMA QUOTATION MARK ORNAMENTcDOUBLE COMMA QUOTATION MARK ORNAMENTaCURVED STE
M PARAGRAPH SIGN ORNAMENTaHEAVY EXCLAMATION MARK ORNAMENTbHEART EXCLAMATION MARK ORNAMENTbBLAC
K HEARTaROTATED HEAVY BLACK HEART BULLETaFLORAL HEARTaROTATED FLORAL HEART BULLETaMEDIUM LEFT P
ARENTHESIS ORNAMENTbRIGHT PARENTHESIS ORNAMENTbFLATTENED LEFT PARENTHESIS ORNAMENTcRIGHT PARENT
HESIS ORNAMENTbLEFT-POINTING ANGLE BRACKET ORNAMENTbRIGHT-POINTING ANGLE BRACKET ORNAMENTaHEAV
Y LEFT-POINTING ANGLE QUOTATION MARK ORNAMENTbRIGHT-POINTING ANGLE QUOTATION MARK ORNAMENTbLEFT
-POINTING ANGLE BRACKET ORNAMENTbRIGHT-POINTING ANGLE BRACKET ORNAMENTaLIGHT LEFT TORTOISE SHEL
L BRACKET ORNAMENTbRIGHT TORTOISE SHELL BRACKET ORNAMENTaMEDIUM LEFT CURLY BRACKET ORNAMENTbRIG
HT CURLY BRACKET ORNAMENTaDINGBAT NEGATIVE CIRCLED DIGIT ONEeTWOeTHREEeFOUReFIVEeSIXeSEVENeEIGH
TeNINEdNUMBER TENbCIRCLED SANS-SERIF DIGIT ONEeTWOeTHREEeFOUReFIVEeSIXeSEVENeEIGHTeNINEdNUMBE
R TENbNEGATIVE CIRCLED SANS-SERIF DIGIT ONEfTWOfTHREEfFOURfFIVEfSIXfSEVENfEIGHTfNINEeNUMBER TEN
aHEAVY WIDE-HEADED RIGHTWARDS ARROWbPLUS SIGNbMINUS SIGNbDIVISION SIGNbSOUTH EAST ARROWbRIGHTWA
RDS ARROWbNORTH EAST ARROWaDRAFTING POINT RIGHTWARDS ARROWaHEAVY ROUND-TIPPED RIGHTWARDS ARROWa
TRIANGLE-HEADED RIGHTWARDS ARROWaHEAVY TRIANGLE-HEADED RIGHTWARDS ARROWaDASHED TRIANGLE-HEADE
D RIGHTWARDS ARROWaHEAVY DASHED TRIANGLE-HEADED RIGHTWARDS ARROWaBLACK RIGHTWARDS ARROWaTHREE-
D TOP-LIGHTED RIGHTWARDS ARROWHEADbBOTTOM-LIGHTED RIGHTWARDS ARROWHEADaBLACK RIGHTWARDS ARROWHE
ADaHEAVY BLACK CURVED DOWNWARDS AND RIGHTWARDS ARROWdUPWARDS AND RIGHTWARDS ARROWaSQUAT BLACK R
IGHTWARDS ARROWaHEAVY CONCAVE-POINTED BLACK RIGHTWARDS ARROWaRIGHT-SHADED WHITE RIGHTWARDS ARRO
WaLEFT-SHADED WHITE RIGHTWARDS ARROWaBACK-TILTED SHADOWED WHITE RIGHTWARDS ARROWaFRONT-TILTED S
HADOWED WHITE RIGHTWARDS ARROWaHEAVY LOWER RIGHT-SHADOWED WHITE RIGHTWARDS ARROWbUPPER RIGHT-SH
ADOWED WHITE RIGHTWARDS ARROWaNOTCHED LOWER RIGHT-SHADOWED WHITE RIGHTWARDS ARROWaCURLY LOOPaNO
TCHED UPPER RIGHT-SHADOWED WHITE RIGHTWARDS ARROWaCIRCLED HEAVY WHITE RIGHTWARDS ARROWaWHITE-FE
ATHERED RIGHTWARDS ARROWaBLACK-FEATHERED SOUTH EAST ARROWbRIGHTWARDS ARROWbNORTH EAST ARROWaHEA
VY BLACK-FEATHERED SOUTH EAST ARROWcRIGHTWARDS ARROWcNORTH EAST ARROWaTEARDROP-BARBED RIGHTWARD
S ARROWaHEAVY TEARDROP-SHANKED RIGHTWARDS ARROWaWEDGE-TAILED RIGHTWARDS ARROWaHEAVY WEDGE-TAILE
D RIGHTWARDS ARROWaOPEN-OUTLINED RIGHTWARDS ARROWaDOUBLE CURLY LOOPaTHREE DIMENSIONAL ANGLEaWHI
TE TRIANGLE CONTAINING SMALL WHITE TRIANGLEaPERPENDICULARaOPEN SUBSETbSUPERSETaLEFT S-SHAPED BA
G DELIMITERaRIGHT S-SHAPED BAG DELIMITERaOR WITH DOT INSIDEaREVERSE SOLIDUS PRECEDING SUBSETaSU
PERSET PRECEDING SOLIDUSaVERTICAL BAR WITH HORIZONTAL STROKEaMATHEMATICAL RISING DIAGONALaLON
G DIVISIONaMATHEMATICAL FALLING DIAGONALaSQUARED LOGICAL ANDcORaWHITE DIAMOND WITH CENTRED DOTa
AND WITH DOTaELEMENT OF OPENING UPWARDSaLOWER RIGHT CORNER WITH DOTaUPPER LEFT CORNER WITH DOTa
LEFT OUTER JOINaRIGHT OUTER JOINaFULL OUTER JOINaLARGE UP TACKbDOWN TACKaLEFT AND RIGHT DOUBL
E TURNSTILEdTACKbMULTIMAPaLONG RIGHT TACKbLEFT TACKaUP TACK WITH CIRCLE ABOVEaLOZENGE DIVIDED B
Y HORIZONTAL RULEaWHITE CONCAVE-SIDED DIAMONDdWITH LEFTWARDS TICKeRIGHTWARDS TICKbSQUARE WITH L
EFTWARDS TICKdRIGHTWARDS TICKaMATHEMATICAL LEFT WHITE SQUARE BRACKETbRIGHT WHITE SQUARE BRACKET
bLEFT ANGLE BRACKETbRIGHT ANGLE BRACKETbLEFT DOUBLE ANGLE BRACKETbRIGHT DOUBLE ANGLE BRACKETbLE
FT WHITE TORTOISE SHELL BRACKETbRIGHT WHITE TORTOISE SHELL BRACKETbLEFT FLATTENED PARENTHESISbR
IGHT FLATTENED PARENTHESISaUPWARDS QUADRUPLE ARROWaDOWNWARDS QUADRUPLE ARROWaANTICLOCKWISE GAPP
ED CIRCLE ARROWaCLOCKWISE GAPPED CIRCLE ARROWaRIGHT ARROW WITH CIRCLED PLUSaLONG LEFTWARDS ARRO
WbRIGHTWARDS ARROWbLEFT RIGHT ARROWbLEFTWARDS DOUBLE ARROWbRIGHTWARDS DOUBLE ARROWbLEFT RIGHT D
OUBLE ARROWbLEFTWARDS ARROW FROM BARbRIGHTWARDS ARROW FROM BARbLEFTWARDS DOUBLE ARROW FROM BARb
RIGHTWARDS DOUBLE ARROW FROM BARcSQUIGGLE ARROWaBRAILLE PATTERN BLANKcDOTS-1cDOTS-2cDOTS-12cDOT
S-3cDOTS-13cDOTS-23cDOTS-123cDOTS-4cDOTS-14cDOTS-24cDOTS-124cDOTS-34cDOTS-134cDOTS-234cDOTS-123
4cDOTS-5cDOTS-15cDOTS-25cDOTS-125cDOTS-35cDOTS-135cDOTS-235cDOTS-1235cDOTS-45cDOTS-145cDOTS-245
cDOTS-1245cDOTS-345cDOTS-1345cDOTS-2345cDOTS-12345cDOTS-6cDOTS-16cDOTS-26cDOTS-126cDOTS-36cDOTS
-136cDOTS-236cDOTS-1236cDOTS-46cDOTS-146cDOTS-246cDOTS-1246cDOTS-346cDOTS-1346cDOTS-2346cDOTS-1
2346cDOTS-56cDOTS-156cDOTS-256cDOTS-1256cDOTS-356cDOTS-1356cDOTS-2356cDOTS-12356cDOTS-456cDOTS-
1456cDOTS-2456cDOTS-12456cDOTS-3456cDOTS-13456cDOTS-23456cDOTS-123456cDOTS-7cDOTS-17cDOTS-27cDO
TS-127cDOTS-37cDOTS-137cDOTS-237cDOTS-1237cDOTS-47cDOTS-147cDOTS-247cDOTS-1247cDOTS-347cDOTS-13
47cDOTS-2347cDOTS-12347cDOTS-57cDOTS-157cDOTS-257cDOTS-1257cDOTS-357cDOTS-1357cDOTS-2357cDOTS-1
2357cDOTS-457cDOTS-1457cDOTS-2457cDOTS-12457cDOTS-3457cDOTS-13457cDOTS-23457cDOTS-123457cDOTS-6
7cDOTS-167cDOTS-267cDOTS-1267cDOTS-367cDOTS-1367cDOTS-2367cDOTS-12367cDOTS-467cDOTS-1467cDOTS-2
467cDOTS-12467cDOTS-3467cDOTS-13467cDOTS-23467cDOTS-123467cDOTS-567cDOTS-1567cDOTS-2567cDOTS-12
567cDOTS-3567cDOTS-13567cDOTS-23567cDOTS-123567cDOTS-4567cDOTS-14567cDOTS-24567cDOTS-124567cDOT
S-34567cDOTS-134567cDOTS-234567cDOTS-1234567cDOTS-8cDOTS-18cDOTS-28cDOTS-128cDOTS-38cDOTS-138cD
OTS-238cDOTS-1238cDOTS-48cDOTS-148cDOTS-248cDOTS-1248cDOTS-348cDOTS-1348cDOTS-2348cDOTS-12348cD
OTS-58cDOTS-158cDOTS-258cDOTS-1258cDOTS-358cDOTS-1358cDOTS-2358cDOTS-12358cDOTS-458cDOTS-1458cD
OTS-2458cDOTS-12458cDOTS-3458cDOTS-13458cDOTS-23458cDOTS-123458cDOTS-68cDOTS-168cDOTS-268cDOTS-
1268cDOTS-368cDOTS-1368cDOTS-2368cDOTS-12368cDOTS-468cDOTS-1468cDOTS-2468cDOTS-12468cDOTS-3468c
DOTS-13468cDOTS-23468cDOTS-123468cDOTS-568cDOTS-1568cDOTS-2568cDOTS-12568cDOTS-3568cDOTS-13568c
DOTS-23568cDOTS-123568cDOTS-4568cDOTS-14568cDOTS-24568cDOTS-124568cDOTS-34568cDOTS-134568cDOTS-
234568cDOTS-1234568cDOTS-78cDOTS-178cDOTS-278cDOTS-1278cDOTS-378cDOTS-1378cDOTS-2378cDOTS-12378
cDOTS-478cDOTS-1478cDOTS-2478cDOTS-12478cDOTS-3478cDOTS-13478cDOTS-23478cDOTS-123478cDOTS-578cD
OTS-1578cDOTS-2578cDOTS-12578cDOTS-3578cDOTS-13578cDOTS-23578cDOTS-123578cDOTS-4578cDOTS-14578c
DOTS-24578cDOTS-124578cDOTS-34578cDOTS-134578cDOTS-234578cDOTS-1234578cDOTS-678cDOTS-1678cDOTS-
2678cDOTS-12678cDOTS-3678cDOTS-13678cDOTS-23678cDOTS-123678cDOTS-4678cDOTS-14678cDOTS-24678cDOT
S-124678cDOTS-34678cDOTS-134678cDOTS-234678cDOTS-1234678cDOTS-5678cDOTS-15678cDOTS-25678cDOTS-1
25678cDOTS-35678cDOTS-135678cDOTS-235678cDOTS-1235678cDOTS-45678cDOTS-145678cDOTS-245678cDOTS-1
245678cDOTS-345678cDOTS-1345678cDOTS-2345678cDOTS-12345678aRIGHTWARDS TWO-HEADED ARROW WITH VER
TICAL STROKEeDOUBLE VERTICAL STROKEaLEFTWARDS DOUBLE ARROW WITH VERTICAL STROKEaRIGHTWARDS DOUB
LE ARROW WITH VERTICAL STROKEaLEFT RIGHT DOUBLE ARROW WITH VERTICAL STROKEaRIGHTWARDS TWO-HEADE
D ARROW FROM BARaLEFTWARDS DOUBLE ARROW FROM BARaRIGHTWARDS DOUBLE ARROW FROM BARaDOWNWARDS ARR
OW WITH HORIZONTAL STROKEaUPWARDS ARROW WITH HORIZONTAL STROKEbTRIPLE ARROWaDOWNWARDS TRIPLE AR
ROWaLEFTWARDS DOUBLE DASH ARROWaRIGHTWARDS DOUBLE DASH ARROWaLEFTWARDS TRIPLE DASH ARROWaRIGHTW
ARDS TRIPLE DASH ARROWbTWO-HEADED TRIPLE DASH ARROWbARROW WITH DOTTED STEMaUPWARDS ARROW TO BAR
aDOWNWARDS ARROW TO BARaRIGHTWARDS ARROW WITH TAIL WITH VERTICAL STROKEfDOUBLE VERTICAL STROKEb
TWO-HEADED ARROW WITH TAILfWITH VERTICAL STROKEgDOUBLE VERTICAL STROKEaLEFTWARDS ARROW-TAILaRIG
HTWARDS ARROW-TAILaLEFTWARDS DOUBLE ARROW-TAILaRIGHTWARDS DOUBLE ARROW-TAILaLEFTWARDS ARROW T
O BLACK DIAMONDaRIGHTWARDS ARROW TO BLACK DIAMONDaLEFTWARDS ARROW FROM BAR TO BLACK DIAMONDaRIG
HTWARDS ARROW FROM BAR TO BLACK DIAMONDaNORTH WEST AND SOUTH EAST ARROWbEAST AND SOUTH WEST ARR
OWbWEST ARROW WITH HOOKbEAST ARROW WITH HOOKaSOUTH EAST ARROW WITH HOOKbWEST ARROW WITH HOOKaNO
RTH WEST ARROW AND NORTH EAST ARROWbEAST ARROW AND SOUTH EAST ARROWaSOUTH EAST ARROW AND SOUT
H WEST ARROWbWEST ARROW AND NORTH WEST ARROWaRISING DIAGONAL CROSSING FALLING DIAGONALaFALLIN
G DIAGONAL CROSSING RISING DIAGONALaSOUTH EAST ARROW CROSSING NORTH EAST ARROWaNORTH EAST ARRO
W CROSSING SOUTH EAST ARROWaFALLING DIAGONAL CROSSING NORTH EAST ARROWaRISING DIAGONAL CROSSIN
G SOUTH EAST ARROWaNORTH EAST ARROW CROSSING NORTH WEST ARROWbWEST ARROW CROSSING NORTH EAST AR
ROWaWAVE ARROW POINTING DIRECTLY RIGHTaARROW POINTING RIGHTWARDS THEN CURVING UPWARDSfDOWNWARDS
cDOWNWARDS THEN CURVING LEFTWARDSfRIGHTWARDSaRIGHT-SIDE ARC CLOCKWISE ARROWaLEFT-SIDE ARC ANTIC
LOCKWISE ARROWaTOP ARC ANTICLOCKWISE ARROWaBOTTOM ARC ANTICLOCKWISE ARROWaTOP ARC CLOCKWISE ARR
OW WITH MINUScANTICLOCKWISE ARROW WITH PLUSaLOWER RIGHT SEMICIRCULAR CLOCKWISE ARROWbLEFT SEMIC
IRCULAR ANTICLOCKWISE ARROWaANTICLOCKWISE CLOSED CIRCLE ARROWaCLOCKWISE CLOSED CIRCLE ARROWaRIG
HTWARDS ARROW ABOVE SHORT LEFTWARDS ARROWaLEFTWARDS ARROW ABOVE SHORT RIGHTWARDS ARROWaSHORT RI
GHTWARDS ARROW ABOVE LEFTWARDS ARROWaRIGHTWARDS ARROW WITH PLUS BELOWaLEFTWARDS ARROW WITH PLU
S BELOWaRIGHTWARDS ARROW THROUGH XaLEFT RIGHT ARROW THROUGH SMALL CIRCLEaUPWARDS TWO-HEADED ARR
OW FROM SMALL CIRCLEaLEFT BARB UP RIGHT BARB DOWN HARPOONcDOWN RIGHT BARB UP HARPOONaUP BARB RI
GHT DOWN BARB LEFT HARPOONcLEFT DOWN BARB RIGHT HARPOONaLEFT BARB UP RIGHT BARB UP HARPOONaUP B
ARB RIGHT DOWN BARB RIGHT HARPOONaLEFT BARB DOWN RIGHT BARB DOWN HARPOONaUP BARB LEFT DOWN BAR
B LEFT HARPOONaLEFTWARDS HARPOON WITH BARB UP TO BARaRIGHTWARDS HARPOON WITH BARB UP TO BARaUPW
ARDS HARPOON WITH BARB RIGHT TO BARaDOWNWARDS HARPOON WITH BARB RIGHT TO BARaLEFTWARDS HARPOO
N WITH BARB DOWN TO BARaRIGHTWARDS HARPOON WITH BARB DOWN TO BARaUPWARDS HARPOON WITH BARB LEF
T TO BARaDOWNWARDS HARPOON WITH BARB LEFT TO BARaLEFTWARDS HARPOON WITH BARB UP FROM BARaRIGHTW
ARDS HARPOON WITH BARB UP FROM BARaUPWARDS HARPOON WITH BARB RIGHT FROM BARaDOWNWARDS HARPOON W
ITH BARB RIGHT FROM BARaLEFTWARDS HARPOON WITH BARB DOWN FROM BARaRIGHTWARDS HARPOON WITH BAR
B DOWN FROM BARaUPWARDS HARPOON WITH BARB LEFT FROM BARaDOWNWARDS HARPOON WITH BARB LEFT FROM B
ARaLEFTWARDS HARPOON WITH BARB UP ABOVE LEFTWARDS HARPOON WITH BARB DOWNaUPWARDS HARPOON WITH B
ARB LEFT BESIDE UPWARDS HARPOON WITH BARB RIGHTaRIGHTWARDS HARPOON WITH BARB UP ABOVE RIGHTWARD
S HARPOON WITH BARB DOWNaDOWNWARDS HARPOON WITH BARB LEFT BESIDE DOWNWARDS HARPOON WITH BARB RI
GHTaLEFTWARDS HARPOON WITH BARB UP ABOVE RIGHTWARDS HARPOON WITH BARB UPeDOWN ABOVE RIGHTWARD
S HARPOON WITH BARB DOWNaRIGHTWARDS HARPOON WITH BARB UP ABOVE LEFTWARDS HARPOON WITH BARB UPeD
OWN ABOVE LEFTWARDS HARPOON WITH BARB DOWNaLEFTWARDS HARPOON WITH BARB UP ABOVE LONG DASHeDOW
N BELOW LONG DASHaRIGHTWARDS HARPOON WITH BARB UP ABOVE LONG DASHeDOWN BELOW LONG DASHaUPWARD
S HARPOON WITH BARB LEFT BESIDE DOWNWARDS HARPOON WITH BARB RIGHTaDOWNWARDS HARPOON WITH BARB L
EFT BESIDE UPWARDS HARPOON WITH BARB RIGHTaRIGHT DOUBLE ARROW WITH ROUNDED HEADaEQUALS SIGN ABO
VE RIGHTWARDS ARROWaTILDE OPERATOR ABOVE RIGHTWARDS ARROWaLEFTWARDS ARROW ABOVE TILDE OPERATORa
RIGHTWARDS ARROW ABOVE TILDE OPERATORdALMOST EQUAL TOaLESS-THAN ABOVE LEFTWARDS ARROWaLEFTWARD
S ARROW THROUGH LESS-THANaGREATER-THAN ABOVE RIGHTWARDS ARROWaSUBSET ABOVE RIGHTWARDS ARROWaLEF
TWARDS ARROW THROUGH SUBSETaSUPERSET ABOVE LEFTWARDS ARROWaLEFT FISH TAILaRIGHT FISH TAILaUP FI
SH TAILaDOWN FISH TAILaTRIPLE VERTICAL BAR DELIMITERaZ NOTATION SPOTcTYPE COLONaLEFT WHITE CURL
Y BRACKETaRIGHT WHITE CURLY BRACKETaLEFT WHITE PARENTHESISaRIGHT WHITE PARENTHESISaZ NOTATION L
EFT IMAGE BRACKETcRIGHT IMAGE BRACKETcLEFT BINDING BRACKETcRIGHT BINDING BRACKETaLEFT SQUARE BR
ACKET WITH UNDERBARaRIGHT SQUARE BRACKET WITH UNDERBARaLEFT SQUARE BRACKET WITH TICK IN TOP COR
NERaRIGHT SQUARE BRACKET WITH TICK IN BOTTOM CORNERaLEFT SQUARE BRACKET WITH TICK IN BOTTOM COR
NERaRIGHT SQUARE BRACKET WITH TICK IN TOP CORNERaLEFT ANGLE BRACKET WITH DOTaRIGHT ANGLE BRACKE
T WITH DOTaLEFT ARC LESS-THAN BRACKETaRIGHT ARC GREATER-THAN BRACKETaDOUBLE LEFT ARC GREATER-TH
AN BRACKETbRIGHT ARC LESS-THAN BRACKETaLEFT BLACK TORTOISE SHELL BRACKETaRIGHT BLACK TORTOISE S
HELL BRACKETaDOTTED FENCEaVERTICAL ZIGZAG LINEaMEASURED ANGLE OPENING LEFTaRIGHT ANGLE VARIAN
T WITH SQUAREaMEASURED RIGHT ANGLE WITH DOTaANGLE WITH S INSIDEaACUTE ANGLEaSPHERICAL ANGLE OPE
NING LEFTdUPaTURNED ANGLEaREVERSED ANGLEaANGLE WITH UNDERBARaREVERSED ANGLE WITH UNDERBARaOBLIQ
UE ANGLE OPENING UPdDOWNaMEASURED ANGLE WITH OPEN ARM ENDING IN ARROW POINTING UP AND RIGHTlLEF
TjDOWN AND RIGHTlLEFTjRIGHT AND UPjLEFT AND UPjRIGHT AND DOWNjLEFT AND DOWNaREVERSED EMPTY SETa
EMPTY SET WITH OVERBARdSMALL CIRCLE ABOVEdRIGHT ARROW ABOVEdLEFT ARROW ABOVEaCIRCLE WITH HORIZO
NTAL BARaCIRCLED VERTICAL BARbPARALLELbREVERSE SOLIDUSbPERPENDICULARaCIRCLE DIVIDED BY HORIZONT
AL BAR AND TOP HALF DIVIDED BY VERTICAL BARbWITH SUPERIMPOSED XaCIRCLED ANTICLOCKWISE-ROTATED D
IVISION SIGNaUP ARROW THROUGH CIRCLEaCIRCLED WHITE BULLETbBULLETbLESS-THANbGREATER-THANaCIRCL
E WITH SMALL CIRCLE TO THE RIGHTcTWO HORIZONTAL STROKES TO THE RIGHTaSQUARED RISING DIAGONAL SL
ASHbFALLING DIAGONAL SLASHbASTERISKbSMALL CIRCLEbSQUAREaTWO JOINED SQUARESaTRIANGLE WITH DOT AB
OVEcUNDERBARaS IN TRIANGLEaTRIANGLE WITH SERIFS AT BOTTOMaRIGHT TRIANGLE ABOVE LEFT TRIANGLEaLE
FT TRIANGLE BESIDE VERTICAL BARaVERTICAL BAR BESIDE RIGHT TRIANGLEaBOWTIE WITH LEFT HALF BLACKc
RIGHT HALF BLACKaBLACK BOWTIEaTIMES WITH LEFT HALF BLACKcRIGHT HALF BLACKaWHITE HOURGLASSaBLAC
K HOURGLASSaLEFT WIGGLY FENCEaRIGHT WIGGLY FENCEaLEFT DOUBLE WIGGLY FENCEaRIGHT DOUBLE WIGGLY F
ENCEaINCOMPLETE INFINITYaTIE OVER INFINITYaINFINITY NEGATED WITH VERTICAL BARaDOUBLE-ENDED MULT
IMAPaSQUARE WITH CONTOURED OUTLINEaINCREASES ASaSHUFFLE PRODUCTaEQUALS SIGN AND SLANTED PARALLE
LfWITH TILDE ABOVEaIDENTICAL TO AND SLANTED PARALLELaGLEICH STARKaTHERMODYNAMICaDOWN-POINTING T
RIANGLE WITH LEFT HALF BLACKdRIGHT HALF BLACKaBLACK DIAMOND WITH DOWN ARROWbLOZENGEaWHITE CIRCL
E WITH DOWN ARROWaBLACK CIRCLE WITH DOWN ARROWaERROR-BARRED WHITE SQUAREbBLACK SQUAREbWHITE DIA
MONDbBLACK DIAMONDbWHITE CIRCLEbBLACK CIRCLEaRULE-DELAYEDaREVERSE SOLIDUS OPERATORaSOLIDUS WIT
H OVERBARaREVERSE SOLIDUS WITH HORIZONTAL STROKEaBIG SOLIDUSbREVERSE SOLIDUSaDOUBLE PLUSaTRIPL
E PLUSaLEFT-POINTING CURVED ANGLE BRACKETaRIGHT-POINTING CURVED ANGLE BRACKETaTINYaMINYaN-ARY C
IRCLED DOT OPERATORcPLUS OPERATORcTIMES OPERATORbUNION OPERATOR WITH DOTePLUSbSQUARE INTERSECTI
ON OPERATORcUNION OPERATORaTWO LOGICAL AND OPERATORcOR OPERATORaN-ARY TIMES OPERATORaMODULO TW
O SUMaSUMMATION WITH INTEGRALaQUADRUPLE INTEGRAL OPERATORaFINITE PART INTEGRALaINTEGRAL WITH DO
UBLE STROKEbAVERAGE WITH SLASHaCIRCULATION FUNCTIONaANTICLOCKWISE INTEGRATIONaLINE INTEGRATIO
N WITH RECTANGULAR PATH AROUND POLEdSEMICIRCULAR PATH AROUND POLEcNOT INCLUDING THE POLEaINTEGR
AL AROUND A POINT OPERATORaQUATERNION INTEGRAL OPERATORaINTEGRAL WITH LEFTWARDS ARROW WITH HOOK
cTIMES SIGNcINTERSECTIONcUNIONcOVERBARcUNDERBARaJOINaLARGE LEFT TRIANGLE OPERATORaZ NOTATION SC
HEMA COMPOSITIONdPIPINGdPROJECTIONaPLUS SIGN WITH SMALL CIRCLE ABOVEdCIRCUMFLEX ACCENT ABOVEdTI
LDE ABOVEdDOT BELOWdTILDE BELOWdSUBSCRIPT TWOdBLACK TRIANGLEaMINUS SIGN WITH COMMA ABOVEdDOT BE
LOWdFALLING DOTSdRISING DOTSaPLUS SIGN IN LEFT HALF CIRCLEdRIGHT HALF CIRCLEaVECTOR OR CROSS PR
ODUCTaMULTIPLICATION SIGN WITH DOT ABOVEdUNDERBARaSEMIDIRECT PRODUCT WITH BOTTOM CLOSEDaSMASH P
RODUCTaMULTIPLICATION SIGN IN LEFT HALF CIRCLEdRIGHT HALF CIRCLEaCIRCLED MULTIPLICATION SIGN WI
TH CIRCUMFLEX ACCENTaMULTIPLICATION SIGN IN DOUBLE CIRCLEaCIRCLED DIVISION SIGNaPLUS SIGN IN TR
IANGLEaMINUS SIGN IN TRIANGLEaMULTIPLICATION SIGN IN TRIANGLEaINTERIOR PRODUCTaRIGHTHAND INTERI
OR PRODUCTaZ NOTATION RELATIONAL COMPOSITIONaAMALGAMATION OR COPRODUCTaINTERSECTION WITH DOTaUN
ION WITH MINUS SIGNcOVERBARaINTERSECTION WITH OVERBARcLOGICAL ANDaUNION WITH LOGICAL ORbABOVE I
NTERSECTIONaINTERSECTION ABOVE UNIONaUNION ABOVE BAR ABOVE INTERSECTIONaINTERSECTION ABOVE BA
R ABOVE UNIONaUNION BESIDE AND JOINED WITH UNIONaINTERSECTION BESIDE AND JOINED WITH INTERSECTI
ONaCLOSED UNION WITH SERIFSbINTERSECTION WITH SERIFSaDOUBLE SQUARE INTERSECTIONcUNIONaCLOSED UN
ION WITH SERIFS AND SMASH PRODUCTaLOGICAL AND WITH DOT ABOVEbOR WITH DOT ABOVEaDOUBLE LOGICAL A
NDcORaTWO INTERSECTING LOGICAL ANDdORaSLOPING LARGE ORcANDaLOGICAL OR OVERLAPPING LOGICAL ANDbA
ND WITH MIDDLE STEMbOR WITH MIDDLE STEMbAND WITH HORIZONTAL DASHbOR WITH HORIZONTAL DASHbAND WI
TH DOUBLE OVERBARdUNDERBARdDOUBLE UNDERBARaSMALL VEE WITH UNDERBARaLOGICAL OR WITH DOUBLE OVERB
AReUNDERBARaZ NOTATION DOMAIN ANTIRESTRICTIONcRANGE ANTIRESTRICTIONaEQUALS SIGN WITH DOT BELOWa
IDENTICAL WITH DOT ABOVEaTRIPLE HORIZONTAL BAR WITH DOUBLE VERTICAL STROKEeTRIPLE VERTICAL STRO
KEaTILDE OPERATOR WITH DOT ABOVEdRISING DOTSaSIMILAR MINUS SIMILARaCONGRUENT WITH DOT ABOVEaEQU
ALS WITH ASTERISKaALMOST EQUAL TO WITH CIRCUMFLEX ACCENTaAPPROXIMATELY EQUAL OR EQUAL TOaEQUAL
S SIGN ABOVE PLUS SIGNaPLUS SIGN ABOVE EQUALS SIGNaEQUALS SIGN ABOVE TILDE OPERATORaDOUBLE COLO
N EQUALaTWO CONSECUTIVE EQUALS SIGNSaTHREE CONSECUTIVE EQUALS SIGNSaEQUALS SIGN WITH TWO DOTS A
BOVE AND TWO DOTS BELOWaEQUIVALENT WITH FOUR DOTS ABOVEaLESS-THAN WITH CIRCLE INSIDEaGREATER-TH
AN WITH CIRCLE INSIDEaLESS-THAN WITH QUESTION MARK ABOVEaGREATER-THAN WITH QUESTION MARK ABOVEa
LESS-THAN OR SLANTED EQUAL TOaGREATER-THAN OR SLANTED EQUAL TOaLESS-THAN OR SLANTED EQUAL TO WI
TH DOT INSIDEaGREATER-THAN OR SLANTED EQUAL TO WITH DOT INSIDEaLESS-THAN OR SLANTED EQUAL TO WI
TH DOT ABOVEaGREATER-THAN OR SLANTED EQUAL TO WITH DOT ABOVEaLESS-THAN OR SLANTED EQUAL TO WIT
H DOT ABOVE RIGHTaGREATER-THAN OR SLANTED EQUAL TO WITH DOT ABOVE LEFTaLESS-THAN OR APPROXIMATE
aGREATER-THAN OR APPROXIMATEaLESS-THAN AND SINGLE-LINE NOT EQUAL TOaGREATER-THAN AND SINGLE-LIN
E NOT EQUAL TOaLESS-THAN AND NOT APPROXIMATEaGREATER-THAN AND NOT APPROXIMATEaLESS-THAN ABOVE D
OUBLE-LINE EQUAL ABOVE GREATER-THANaGREATER-THAN ABOVE DOUBLE-LINE EQUAL ABOVE LESS-THANaLESS-T
HAN ABOVE SIMILAR OR EQUALaGREATER-THAN ABOVE SIMILAR OR EQUALaLESS-THAN ABOVE SIMILAR ABOVE GR
EATER-THANaGREATER-THAN ABOVE SIMILAR ABOVE LESS-THANaLESS-THAN ABOVE GREATER-THAN ABOVE DOUBLE
-LINE EQUALaGREATER-THAN ABOVE LESS-THAN ABOVE DOUBLE-LINE EQUALaLESS-THAN ABOVE SLANTED EQUA
L ABOVE GREATER-THAN ABOVE SLANTED EQUALaGREATER-THAN ABOVE SLANTED EQUAL ABOVE LESS-THAN ABOV
E SLANTED EQUALaSLANTED EQUAL TO OR LESS-THANeGREATER-THANeLESS-THAN WITH DOT INSIDEeGREATER-TH
AN WITH DOT INSIDEaDOUBLE-LINE EQUAL TO OR LESS-THANeGREATER-THANbSLANTED EQUAL TO OR LESS-THAN
fGREATER-THANaSIMILAR OR LESS-THANcGREATER-THANbABOVE LESS-THAN ABOVE EQUALS SIGNcGREATER-THA
N ABOVE EQUALS SIGNaDOUBLE NESTED LESS-THANcGREATER-THANcLESS-THAN WITH UNDERBARaGREATER-THAN O
VERLAPPING LESS-THANbBESIDE LESS-THANaLESS-THAN CLOSED BY CURVEaGREATER-THAN CLOSED BY CURVEaLE
SS-THAN CLOSED BY CURVE ABOVE SLANTED EQUALaGREATER-THAN CLOSED BY CURVE ABOVE SLANTED EQUALaSM
ALLER THANaLARGER THANaSMALLER THAN OR EQUAL TOaLARGER THAN OR EQUAL TOaEQUALS SIGN WITH BUMP
Y ABOVEaPRECEDES ABOVE SINGLE-LINE EQUALS SIGNaSUCCEEDS ABOVE SINGLE-LINE EQUALS SIGNaPRECEDE
S ABOVE SINGLE-LINE NOT EQUAL TOaSUCCEEDS ABOVE SINGLE-LINE NOT EQUAL TOaPRECEDES ABOVE EQUAL
S SIGNaSUCCEEDS ABOVE EQUALS SIGNaPRECEDES ABOVE NOT EQUAL TOaSUCCEEDS ABOVE NOT EQUAL TOaPRECE
DES ABOVE ALMOST EQUAL TOaSUCCEEDS ABOVE ALMOST EQUAL TOaPRECEDES ABOVE NOT ALMOST EQUAL TOaSUC
CEEDS ABOVE NOT ALMOST EQUAL TOaDOUBLE PRECEDESbSUCCEEDSaSUBSET WITH DOTaSUPERSET WITH DOTaSUBS
ET WITH PLUS SIGN BELOWaSUPERSET WITH PLUS SIGN BELOWaSUBSET WITH MULTIPLICATION SIGN BELOWaSUP
ERSET WITH MULTIPLICATION SIGN BELOWaSUBSET OF OR EQUAL TO WITH DOT ABOVEaSUPERSET OF OR EQUA
L TO WITH DOT ABOVEaSUBSET OF ABOVE EQUALS SIGNaSUPERSET OF ABOVE EQUALS SIGNaSUBSET OF ABOVE T
ILDE OPERATORaSUPERSET OF ABOVE TILDE OPERATORaSUBSET OF ABOVE ALMOST EQUAL TOaSUPERSET OF ABOV
E ALMOST EQUAL TOaSUBSET OF ABOVE NOT EQUAL TOaSUPERSET OF ABOVE NOT EQUAL TOaSQUARE LEFT OPE
N BOX OPERATORbRIGHT OPEN BOX OPERATORaCLOSED SUBSETbSUPERSETbSUBSET OR EQUAL TObSUPERSET OR EQ
UAL TOaSUBSET ABOVE SUPERSETaSUPERSET ABOVE SUBSETaSUBSET ABOVE SUBSETaSUPERSET ABOVE SUPERSETb
BESIDE SUBSETcAND JOINED BY DASH WITH SUBSETaELEMENT OF OPENING DOWNWARDSaPITCHFORK WITH TEE TO
PaTRANSVERSAL INTERSECTIONaFORKINGaNONFORKINGaSHORT LEFT TACKbDOWN TACKbUP TACKaPERPENDICULAR W
ITH SaVERTICAL BAR TRIPLE RIGHT TURNSTILEaDOUBLE VERTICAL BAR LEFT TURNSTILEaVERTICAL BAR DOUBL
E LEFT TURNSTILEaDOUBLE VERTICAL BAR DOUBLE LEFT TURNSTILEaLONG DASH FROM LEFT MEMBER OF DOUBL
E VERTICALaSHORT DOWN TACK WITH OVERBARbUP TACK WITH UNDERBARdABOVE SHORT DOWN TACKaDOUBLE DOW
N TACKbUP TACKbSTROKE NOT SIGNaREVERSED DOUBLE STROKE NOT SIGNaDOES NOT DIVIDE WITH REVERSED NE
GATION SLASHaVERTICAL LINE WITH CIRCLE ABOVEeBELOWaDOWN TACK WITH CIRCLE BELOWaPARALLEL WITH HO
RIZONTAL STROKEcTILDE OPERATORaTRIPLE VERTICAL BAR BINARY RELATIONdWITH HORIZONTAL STROKEbCOLO
N OPERATORbNESTED LESS-THANcGREATER-THANaDOUBLE-LINE SLANTED LESS-THAN OR EQUAL TOcGREATER-THA
N OR EQUAL TOaTRIPLE SOLIDUS BINARY RELATIONaLARGE TRIPLE VERTICAL BAR OPERATORaDOUBLE SOLIDU
S OPERATORaWHITE VERTICAL BARaN-ARY WHITE VERTICAL BARaNORTH EAST WHITE ARROWbWEST WHITE ARROWa
SOUTH EAST WHITE ARROWbWEST WHITE ARROWaLEFT RIGHT WHITE ARROWaLEFTWARDS BLACK ARROWaUPWARDS BL
ACK ARROWaDOWNWARDS BLACK ARROWaNORTH EAST BLACK ARROWbWEST BLACK ARROWaSOUTH EAST BLACK ARROWb
WEST BLACK ARROWaLEFT RIGHT BLACK ARROWaUP DOWN BLACK ARROWaRIGHTWARDS ARROW WITH TIP DOWNWARDS
eUPWARDSaLEFTWARDS ARROW WITH TIP DOWNWARDSeUPWARDSaSQUARE WITH TOP HALF BLACKcBOTTOM HALF BLAC
KcUPPER RIGHT DIAGONAL HALF BLACKcLOWER LEFT DIAGONAL HALF BLACKaDIAMOND WITH LEFT HALF BLACKcR
IGHT HALF BLACKcTOP HALF BLACKcBOTTOM HALF BLACKaDOTTED SQUAREaBLACK LARGE SQUAREaWHITE LARGE S
QUAREaBLACK VERY SMALL SQUAREaWHITE VERY SMALL SQUAREaBLACK PENTAGONaWHITE PENTAGONbHEXAGONaBLA
CK HEXAGONaHORIZONTAL BLACK HEXAGONaBLACK LARGE CIRCLEbMEDIUM DIAMONDaWHITE MEDIUM DIAMONDaBLAC
K MEDIUM LOZENGEaWHITE MEDIUM LOZENGEaBLACK SMALL DIAMONDcLOZENGEaWHITE SMALL LOZENGEaBLACK HOR
IZONTAL ELLIPSEaWHITE HORIZONTAL ELLIPSEaBLACK VERTICAL ELLIPSEaWHITE VERTICAL ELLIPSEaLEFT ARR
OW WITH SMALL CIRCLEaTHREE LEFTWARDS ARROWSaLEFT ARROW WITH CIRCLED PLUSaLONG LEFTWARDS SQUIGGL
E ARROWaLEFTWARDS TWO-HEADED ARROW WITH VERTICAL STROKEeDOUBLE VERTICAL STROKEdFROM BARcTRIPL
E DASH ARROWbARROW WITH DOTTED STEMdTAIL WITH VERTICAL STROKEfDOUBLE VERTICAL STROKEbTWO-HEADE
D ARROW WITH TAILfWITH VERTICAL STROKEgDOUBLE VERTICAL STROKEbARROW THROUGH XaWAVE ARROW POINTI
NG DIRECTLY LEFTaEQUALS SIGN ABOVE LEFTWARDS ARROWaREVERSE TILDE OPERATOR ABOVE LEFTWARDS ARROW
aLEFTWARDS ARROW ABOVE REVERSE ALMOST EQUAL TOaRIGHTWARDS ARROW THROUGH GREATER-THANdSUPERSETaL
EFTWARDS QUADRUPLE ARROWaRIGHTWARDS QUADRUPLE ARROWaREVERSE TILDE OPERATOR ABOVE RIGHTWARDS ARR
OWaRIGHTWARDS ARROW ABOVE REVERSE ALMOST EQUAL TOaTILDE OPERATOR ABOVE LEFTWARDS ARROWaLEFTWARD
S ARROW ABOVE ALMOST EQUAL TOdREVERSE TILDE OPERATORaRIGHTWARDS ARROW ABOVE REVERSE TILDE OPERA
TORaDOWNWARDS TRIANGLE-HEADED ZIGZAG ARROWaSHORT SLANTED NORTH ARROWbBACKSLANTED SOUTH ARROWaWH
ITE MEDIUM STARaBLACK SMALL STARaWHITE SMALL STARaBLACK RIGHT-POINTING PENTAGONaWHITE RIGHT-POI
NTING PENTAGONaHEAVY LARGE CIRCLEbOVAL WITH OVAL INSIDEbCIRCLE WITH CIRCLE INSIDEcbCIRCLED SALT
IREaSLANTED NORTH ARROW WITH HOOKED HEADaBACKSLANTED SOUTH ARROW WITH HOOKED TAILaSLANTED NORT
H ARROW WITH HORIZONTAL TAILaBACKSLANTED SOUTH ARROW WITH HORIZONTAL TAILaBENT ARROW POINTING D
OWNWARDS THEN NORTH EASTaSHORT BENT ARROW POINTING DOWNWARDS THEN NORTH EASTaLEFTWARDS TRIANGLE
-HEADED ARROWaUPWARDS TRIANGLE-HEADED ARROWaRIGHTWARDS TRIANGLE-HEADED ARROWaDOWNWARDS TRIANGLE
-HEADED ARROWaLEFT RIGHT TRIANGLE-HEADED ARROWaUP DOWN TRIANGLE-HEADED ARROWaNORTH WEST TRIANGL
E-HEADED ARROWbEAST TRIANGLE-HEADED ARROWaSOUTH EAST TRIANGLE-HEADED ARROWbWEST TRIANGLE-HEADE
D ARROWaLEFTWARDS TRIANGLE-HEADED DASHED ARROWaUPWARDS TRIANGLE-HEADED DASHED ARROWaRIGHTWARD
S TRIANGLE-HEADED DASHED ARROWaDOWNWARDS TRIANGLE-HEADED DASHED ARROWaCLOCKWISE TRIANGLE-HEADE
D OPEN CIRCLE ARROWaANTICLOCKWISE TRIANGLE-HEADED OPEN CIRCLE ARROWaLEFTWARDS TRIANGLE-HEADED A
RROW TO BARaUPWARDS TRIANGLE-HEADED ARROW TO BARaRIGHTWARDS TRIANGLE-HEADED ARROW TO BARaDOWNWA
RDS TRIANGLE-HEADED ARROW TO BAR@2B76aNORTH WEST TRIANGLE-HEADED ARROW TO BARbEAST TRIANGLE-HEA
DED ARROW TO BARaSOUTH EAST TRIANGLE-HEADED ARROW TO BARbWEST TRIANGLE-HEADED ARROW TO BARaLEFT
WARDS TRIANGLE-HEADED ARROW WITH DOUBLE HORIZONTAL STROKE@2B7AfVERTICAL STROKEaUPWARDS TRIANGLE
-HEADED ARROW WITH DOUBLE HORIZONTAL STROKEaRIGHTWARDS TRIANGLE-HEADED ARROW WITH DOUBLE HORIZO
NTAL STROKE@2B7CfVERTICAL STROKEaDOWNWARDS TRIANGLE-HEADED ARROW WITH DOUBLE HORIZONTAL STROKEa
HORIZONTAL TAB KEYaVERTICAL TAB KEYaLEFTWARDS TRIANGLE-HEADED ARROW OVER RIGHTWARDS TRIANGLE-HE
ADED ARROWaUPWARDS TRIANGLE-HEADED ARROW LEFTWARDS OF DOWNWARDS TRIANGLE-HEADED ARROWaRIGHTWARD
S TRIANGLE-HEADED ARROW OVER LEFTWARDS TRIANGLE-HEADED ARROWaDOWNWARDS TRIANGLE-HEADED ARROW LE
FTWARDS OF UPWARDS TRIANGLE-HEADED ARROWaLEFTWARDS TRIANGLE-HEADED PAIRED ARROWSaUPWARDS TRIANG
LE-HEADED PAIRED ARROWSaRIGHTWARDS TRIANGLE-HEADED PAIRED ARROWSaDOWNWARDS TRIANGLE-HEADED PAIR
ED ARROWSaLEFTWARDS BLACK CIRCLED WHITE ARROWaUPWARDS BLACK CIRCLED WHITE ARROWaRIGHTWARDS BLAC
K CIRCLED WHITE ARROWaDOWNWARDS BLACK CIRCLED WHITE ARROWaANTICLOCKWISE TRIANGLE-HEADED RIGHT U
-SHAPED ARROWcBOTTOM U-SHAPED ARROWcLEFT U-SHAPED ARROWcTOP U-SHAPED ARROWaRETURN LEFTbRIGHTaNE
WLINE LEFTbRIGHTaFOUR CORNER ARROWS CIRCLING ANTICLOCKWISEaRIGHTWARDS BLACK ARROW@2B97aSYMBOL F
OR TYPE A ELECTRONICSaTHREE-D TOP-LIGHTED LEFTWARDS EQUILATERAL ARROWHEADbRIGHT-LIGHTED UPWARD
S EQUILATERAL ARROWHEADbTOP-LIGHTED RIGHTWARDS EQUILATERAL ARROWHEADbLEFT-LIGHTED DOWNWARDS EQU
ILATERAL ARROWHEADaBLACK LEFTWARDS EQUILATERAL ARROWHEADbUPWARDS EQUILATERAL ARROWHEADbRIGHTWAR
DS EQUILATERAL ARROWHEADbDOWNWARDS EQUILATERAL ARROWHEADaDOWNWARDS TRIANGLE-HEADED ARROW WITH L
ONG TIP LEFTWARDSgRIGHTWARDSaUPWARDS TRIANGLE-HEADED ARROW WITH LONG TIP LEFTWARDSgRIGHTWARDSaL
EFTWARDS TRIANGLE-HEADED ARROW WITH LONG TIP UPWARDSaRIGHTWARDS TRIANGLE-HEADED ARROW WITH LON
G TIP UPWARDSaLEFTWARDS TRIANGLE-HEADED ARROW WITH LONG TIP DOWNWARDSaRIGHTWARDS TRIANGLE-HEADE
D ARROW WITH LONG TIP DOWNWARDSaBLACK CURVED DOWNWARDS AND LEFTWARDS ARROWeRIGHTWARDS ARROWcUPW
ARDS AND LEFTWARDS ARROWeRIGHTWARDS ARROWcLEFTWARDS AND UPWARDS ARROWcRIGHTWARDS AND UPWARDS AR
ROWcLEFTWARDS AND DOWNWARDS ARROWcRIGHTWARDS AND DOWNWARDS ARROWaRIBBON ARROW DOWN LEFTdRIGHTcU
P LEFTdRIGHTcLEFT UPcRIGHT UPcLEFT DOWNcRIGHT DOWNaUPWARDS WHITE ARROW FROM BAR WITH HORIZONTA
L BARaUP ARROWHEAD IN A RECTANGLE BOXaOVERLAPPING WHITE SQUAREScAND BLACK SQUARESbBLACK SQUARES
aBALLOT BOX WITH LIGHT XaCIRCLED XbBOLD XaBLACK SQUARE CENTREDbDIAMOND CENTREDaTURNED BLACK PEN
TAGONaHORIZONTAL BLACK OCTAGONaBLACK OCTAGONbMEDIUM UP-POINTING TRIANGLE CENTREDcDOWN-POINTIN
G TRIANGLE CENTREDcLEFT-POINTING TRIANGLE CENTREDcRIGHT-POINTING TRIANGLE CENTREDaNEPTUNE FOR
M TWOaTOP HALF BLACK CIRCLEaBOTTOM HALF BLACK CIRCLEaLIGHT FOUR POINTED BLACK CUSPaROTATED LIGH
T FOUR POINTED BLACK CUSPaWHITE FOUR POINTED CUSPaROTATED WHITE FOUR POINTED CUSPaSQUARE POSITI
ON INDICATORaUNCERTAINTY SIGNaGROUP MARKaPLUTO FORM TWOcTHREEcFOURcFIVEaTRANSPLUTOaPROSERPINAaA
STRAEAaHYGIEAaPHOLUSaNESSUSaWHITE MOON SELENAaBLACK DIAMOND ON CROSSaTRUE LIGHT MOON ARTAaCUPID
OaHADESaZEUSaKRONOSaAPOLLONaADMETOSaVULCANUSaPOSEIDONaLEFT HALF BLACK STARaRIGHT HALF BLACK STA
RaSTAR WITH LEFT HALF BLACKcRIGHT HALF BLACKaLEFTWARDS TWO-HEADED ARROW WITH TRIANGLE ARROWHEAD
SaUPWARDS TWO-HEADED ARROW WITH TRIANGLE ARROWHEADSaRIGHTWARDS TWO-HEADED ARROW WITH TRIANGLE A
RROWHEADSaDOWNWARDS TWO-HEADED ARROW WITH TRIANGLE ARROWHEADSaERIS FORM ONEcTWOaSEDNAaRUSSIAN A
STROLOGICAL SYMBOL VIGINTILEdNOVILEdQUINTILEdBINOVILEdSENTAGONdTREDECILEaEQUALS SIGN WITH INFIN
ITY BELOWaUNITED SYMBOLaSEPARATED SYMBOLaDOUBLED SYMBOLaPASSED SYMBOLaREVERSED RIGHT ANGLEaHELL
SCHREIBER PAUSE SYMBOLaGLAGOLITIC CAPITAL LETTER AZUdBUKYdVEDEdGLAGOLIdDOBROdYESTUdZHIVETEdDZEL
OdZEMLJAdIZHEdINITIAL IZHEdIdDJERVIdKAKOdLJUDIJEdMYSLITEdNASHIdONUdPOKOJIdRITSIdSLOVOdTVRIDOdUK
UdFRITUdHERUdOTUdPEdSHTAdTSIdCHRIVIdSHAdYERUdYERIdYATIdSPIDERY HAdYUdSMALL YUSfWITH TAILdYOdIOT
ATED SMALL YUSdBIG YUSdIOTATED BIG YUSdFITAdIZHITSAdSHTAPICdTROKUTASTI AdLATINATE MYSLITEdCAUDA
TE CHRIVIbSMALL LETTER AZUdBUKYdVEDEdGLAGOLIdDOBROdYESTUdZHIVETEdDZELOdZEMLJAdIZHEdINITIAL IZHE
dIdDJERVIdKAKOdLJUDIJEdMYSLITEdNASHIdONUdPOKOJIdRITSIdSLOVOdTVRIDOdUKUdFRITUdHERUdOTUdPEdSHTAdT
SIdCHRIVIdSHAdYERUdYERIdYATIdSPIDERY HAdYUdSMALL YUSfWITH TAILdYOdIOTATED SMALL YUSdBIG YUSdIOT
ATED BIG YUSdFITAdIZHITSAdSHTAPICdTROKUTASTI AdLATINATE MYSLITEdCAUDATE CHRIVIaLATIN CAPITAL LE
TTER L WITH DOUBLE BARbSMALL LETTER L WITH DOUBLE BARbCAPITAL LETTER L WITH MIDDLE TILDEdP WIT
H STROKEdR WITH TAILbSMALL LETTER A WITH STROKEdT WITH DIAGONAL STROKEbCAPITAL LETTER H WITH DE
SCENDERbSMALL LETTER H WITH DESCENDERbCAPITAL LETTER K WITH DESCENDERbSMALL LETTER K WITH DESCE
NDERbCAPITAL LETTER Z WITH DESCENDERbSMALL LETTER Z WITH DESCENDERbCAPITAL LETTER ALPHAdM WIT
H HOOKdTURNED AeALPHAbSMALL LETTER V WITH RIGHT HOOKbCAPITAL LETTER W WITH HOOKbSMALL LETTE
R W WITH HOOKdV WITH CURLbCAPITAL LETTER HALF HbSMALL LETTER HALF HdTAILLESS PHIdE WITH NOTCHdT
URNED R WITH TAILdO WITH LOW RING INSIDEbLETTER SMALL CAPITAL TURNED EbSUBSCRIPT SMALL LETTER J
aMODIFIER LETTER CAPITAL VaLATIN CAPITAL LETTER S WITH SWASH TAILdZ WITH SWASH TAILaCOPTIC CAPI
TAL LETTER ALFAbSMALL LETTER ALFAbCAPITAL LETTER VIDAbSMALL LETTER VIDAbCAPITAL LETTER GAMMAbSM
ALL LETTER GAMMAbCAPITAL LETTER DALDAbSMALL LETTER DALDAbCAPITAL LETTER EIEbSMALL LETTER EIEbCA
PITAL LETTER SOUbSMALL LETTER SOUbCAPITAL LETTER ZATAbSMALL LETTER ZATAbCAPITAL LETTER HATEbSMA
LL LETTER HATEbCAPITAL LETTER THETHEbSMALL LETTER THETHEbCAPITAL LETTER IAUDAbSMALL LETTER IAUD
AbCAPITAL LETTER KAPAbSMALL LETTER KAPAbCAPITAL LETTER LAULAbSMALL LETTER LAULAbCAPITAL LETTE
R MIbSMALL LETTER MIbCAPITAL LETTER NIbSMALL LETTER NIbCAPITAL LETTER KSIbSMALL LETTER KSIbCAPI
TAL LETTER ObSMALL LETTER ObCAPITAL LETTER PIbSMALL LETTER PIbCAPITAL LETTER RObSMALL LETTER RO
bCAPITAL LETTER SIMAbSMALL LETTER SIMAbCAPITAL LETTER TAUbSMALL LETTER TAUbCAPITAL LETTER UAbSM
ALL LETTER UAbCAPITAL LETTER FIbSMALL LETTER FIbCAPITAL LETTER KHIbSMALL LETTER KHIbCAPITAL LET
TER PSIbSMALL LETTER PSIbCAPITAL LETTER OOUbSMALL LETTER OOUbCAPITAL LETTER DIALECT-P ALEFbSMAL
L LETTER DIALECT-P ALEFbCAPITAL LETTER OLD COPTIC AINbSMALL LETTER OLD COPTIC AINbCAPITAL LETTE
R CRYPTOGRAMMIC EIEbSMALL LETTER CRYPTOGRAMMIC EIEbCAPITAL LETTER DIALECT-P KAPAbSMALL LETTER D
IALECT-P KAPAbCAPITAL LETTER DIALECT-P NIbSMALL LETTER DIALECT-P NIbCAPITAL LETTER CRYPTOGRAMMI
C NIbSMALL LETTER CRYPTOGRAMMIC NIbCAPITAL LETTER OLD COPTIC OOUbSMALL LETTER OLD COPTIC OOUbCA
PITAL LETTER SAMPIbSMALL LETTER SAMPIbCAPITAL LETTER CROSSED SHEIbSMALL LETTER CROSSED SHEIbCAP
ITAL LETTER OLD COPTIC SHEIbSMALL LETTER OLD COPTIC SHEIbCAPITAL LETTER OLD COPTIC ESHbSMALL LE
TTER OLD COPTIC ESHbCAPITAL LETTER AKHMIMIC KHEIbSMALL LETTER AKHMIMIC KHEIbCAPITAL LETTER DIAL
ECT-P HORIbSMALL LETTER DIALECT-P HORIbCAPITAL LETTER OLD COPTIC HORIbSMALL LETTER OLD COPTIC H
ORIbCAPITAL LETTER OLD COPTIC HAbSMALL LETTER OLD COPTIC HAbCAPITAL LETTER L-SHAPED HAbSMALL LE
TTER L-SHAPED HAbCAPITAL LETTER OLD COPTIC HEIbSMALL LETTER OLD COPTIC HEIbCAPITAL LETTER OLD C
OPTIC HATbSMALL LETTER OLD COPTIC HATbCAPITAL LETTER OLD COPTIC GANGIAbSMALL LETTER OLD COPTI
C GANGIAbCAPITAL LETTER OLD COPTIC DJAbSMALL LETTER OLD COPTIC DJAbCAPITAL LETTER OLD COPTIC SH
IMAbSMALL LETTER OLD COPTIC SHIMAbCAPITAL LETTER OLD NUBIAN SHIMAbSMALL LETTER OLD NUBIAN SHIMA
bCAPITAL LETTER OLD NUBIAN NGIbSMALL LETTER OLD NUBIAN NGIbCAPITAL LETTER OLD NUBIAN NYIbSMAL
L LETTER OLD NUBIAN NYIbCAPITAL LETTER OLD NUBIAN WAUbSMALL LETTER OLD NUBIAN WAUbSYMBOL KAIcM
I ROcPI ROcSTAUROScTAU ROcKHI ROcSHIMA SIMAbCAPITAL LETTER CRYPTOGRAMMIC SHEIbSMALL LETTER CRYP
TOGRAMMIC SHEIbCAPITAL LETTER CRYPTOGRAMMIC GANGIAbSMALL LETTER CRYPTOGRAMMIC GANGIAbCOMBININ
G NI ABOVEcSPIRITUS ASPERdLENISbCAPITAL LETTER BOHAIRIC KHEIbSMALL LETTER BOHAIRIC KHEI@2CF9bOL
D NUBIAN FULL STOPdDIRECT QUESTION MARKdINDIRECT QUESTION MARKdVERSE DIVIDERbFRACTION ONE HALFb
FULL STOPbMORPHOLOGICAL DIVIDERaGEORGIAN SMALL LETTER ANdBANdGANdDONdENdVINdZENdTANdINdKANdLASd
MANdNARdONdPARdZHARdRAEdSANdTARdUNdPHARdKHARdGHANdQARdSHINdCHINdCANdJILdCILdCHARdXANdJHANdHAEdH
EdHIEdWEdHARdHOE@2D27dYN@2D2DdAEN@2D30aTIFINAGH LETTER YAcYABcYABHcYAGcYAGHHcBERBER ACADEMY YAJ
cYAJcYADcYADHcYADDcYADDHcYEYcYAFcYAKcTUAREG YAKcYAKHHcYAHcBERBER ACADEMY YAHcTUAREG YAHcYAHHcYA
AcYAKHcTUAREG YAKHcYAQcTUAREG YAQcYIcYAZHcAHAGGAR YAZHcTUAREG YAZHcYALcYAMcYANcTUAREG YAGNdYANG
cYAPcYUcYARcYARRcYAGHcTUAREG YAGHcAYER YAGHcYAScYASScYASHcYATcYATHcYACHcYATTcYAVcYAWcYAYcYAZcTA
WELLEMET YAZcYAZZcYEcYO@2D6FbMODIFIER LETTER LABIALIZATION MARKbSEPARATOR MARK@2D7FbCONSONANT J
OINERaETHIOPIC SYLLABLE LOAcMOAcROAcSOAcSHOAcBOAcTOAcCOAcNOAcNYOAcGLOTTAL OAcZOAcDOAcDDOAcJOAcT
HOAcCHOAcPHOAcPOAcGGWAcGGWIcGGWEEcGGWE@2DA0cSSAcSSUcSSIcSSAAcSSEEcSSEcSSO@2DA8cCCAcCCUcCCIcCCAA
cCCEEcCCEcCCO@2DB0cZZAcZZUcZZIcZZAAcZZEEcZZEcZZO@2DB8cCCHAcCCHUcCCHIcCCHAAcCCHEEcCCHEcCCHO@2DC0
cQYAcQYUcQYIcQYAAcQYEEcQYEcQYO@2DC8cKYAcKYUcKYIcKYAAcKYEEcKYEcKYO@2DD0cXYAcXYUcXYIcXYAAcXYEEcXY
EcXYO@2DD8cGYAcGYUcGYIcGYAAcGYEEcGYEcGYO@2DE0aCOMBINING CYRILLIC LETTER BEdVEdGHEdDEdZHEdZEdKAd
ELdEMdENdOdPEdERdESdTEdHAdTSEdCHEdSHAdSHCHAdFITAdES-TEdAdIEdDJERVdMONOGRAPH UKdYATdYUdIOTIFIE
D AdLITTLE YUSdBIG YUSdIOTIFIED BIG YUSaRIGHT ANGLE SUBSTITUTION MARKERcDOTTED SUBSTITUTION MAR
KERaLEFT SUBSTITUTION BRACKETaRIGHT SUBSTITUTION BRACKETaLEFT DOTTED SUBSTITUTION BRACKETaRIGH
T DOTTED SUBSTITUTION BRACKETaRAISED INTERPOLATION MARKERbDOTTED INTERPOLATION MARKERaDOTTED TR
ANSPOSITION MARKERaLEFT TRANSPOSITION BRACKETaRIGHT TRANSPOSITION BRACKETaRAISED SQUAREaLEFT RA
ISED OMISSION BRACKETaRIGHT RAISED OMISSION BRACKETaEDITORIAL CORONISaPARAGRAPHOSaFORKED PARAGR
APHOSaREVERSED FORKED PARAGRAPHOSaHYPODIASTOLEaDOTTED OBELOSaDOWNWARDS ANCORAaUPWARDS ANCORAaDO
TTED RIGHT-POINTING ANGLEaDOUBLE OBLIQUE HYPHENaINVERTED INTERROBANGaPALM BRANCHaHYPHEN WITH DI
AERESISaTILDE WITH RING ABOVEaLEFT LOW PARAPHRASE BRACKETaRIGHT LOW PARAPHRASE BRACKETaTILDE WI
TH DOT ABOVEdBELOWaLEFT VERTICAL BAR WITH QUILLaRIGHT VERTICAL BAR WITH QUILLaTOP LEFT HALF BRA
CKETbRIGHT HALF BRACKETaBOTTOM LEFT HALF BRACKETbRIGHT HALF BRACKETaLEFT SIDEWAYS U BRACKETaRIG
HT SIDEWAYS U BRACKETaLEFT DOUBLE PARENTHESISaRIGHT DOUBLE PARENTHESISaTWO DOTS OVER ONE DOT PU
NCTUATIONaONE DOT OVER TWO DOTS PUNCTUATIONaSQUARED FOUR DOT PUNCTUATIONaFIVE DOT MARKaREVERSE
D QUESTION MARKaVERTICAL TILDEaRING POINTaWORD SEPARATOR MIDDLE DOTaTURNED COMMAaRAISED DOTbCOM
MAaTURNED SEMICOLONaDAGGER WITH LEFT GUARDcRIGHT GUARDaTURNED DAGGERaTOP HALF SECTION SIGNaTWO-
EM DASHaTHREE-EM DASHaSTENOGRAPHIC FULL STOPaVERTICAL SIX DOTSaWIGGLY VERTICAL LINEaCAPITULUMaD
OUBLE HYPHENaREVERSED COMMAaDOUBLE LOW-REVERSED-9 QUOTATION MARKaDASH WITH LEFT UPTURNaDOUBLE S
USPENSION MARKaINVERTED LOW KAVYKAdWITH KAVYKA ABOVEaLOW KAVYKAcWITH DOTaDOUBLE STACKED COMMAaD
OTTED SOLIDUSaTRIPLE DAGGERaMEDIEVAL COMMAaPARAGRAPHUS MARKaPUNCTUS ELEVATUS MARKaCORNISH VERS
E DIVIDERaCROSS PATTY WITH RIGHT CROSSBARdLEFT CROSSBARaTIRONIAN SIGN CAPITAL ETaMEDIEVAL EXCLA
MATION MARKbQUESTION MARKaLEFT SQUARE BRACKET WITH STROKEaRIGHT SQUARE BRACKET WITH STROKEaLEF
T SQUARE BRACKET WITH DOUBLE STROKEaRIGHT SQUARE BRACKET WITH DOUBLE STROKEaTOP HALF LEFT PAREN
THESIScRIGHT PARENTHESISaBOTTOM HALF LEFT PARENTHESIScRIGHT PARENTHESISaOBLIQUE HYPHEN@2E80aCJ
K RADICAL REPEATcCLIFFcSECOND ONEdTWOdTHREEcPERSONcBOXcTABLEcKNIFE ONEdTWOcDIVINATIONcSEALcSMAL
L ONEdTWOcLAME ONEdTWOdTHREEdFOURcSNAKEcTHREADcSNOUT ONEdTWOcHEART ONEdTWOcHANDcRAP@2E9BcCHOKEc
SUNcMOONcDEATHcMOTHERcCIVILIANcWATER ONEdTWOcFIREcPAW ONEdTWOcSIMPLIFIED HALF TREE TRUNKcCOWcDO
GcJADEcBOLT OF CLOTHcEYEcSPIRIT ONEdTWOcBAMBOOcSILKcC-SIMPLIFIED SILKcNET ONEdTWOdTHREEdFOURcME
SHcSHEEPcRAMcEWEcOLDcBRUSH ONEdTWOcMEATcMORTARcGRASS ONEdTWOdTHREEcTIGERcCLOTHEScWEST ONEdTWOcC
-SIMPLIFIED SEEcSIMPLIFIED HORNcHORNcC-SIMPLIFIED SPEECHdSHELLcFOOTcC-SIMPLIFIED CARTcSIMPLIFIE
D WALKcWALK ONEdTWOcCITYcC-SIMPLIFIED GOLDcLONG ONEdTWOcC-SIMPLIFIED LONGdGATEcMOUND ONEdTWOcRA
INcBLUEcC-SIMPLIFIED TANNED LEATHERdLEAFdWINDdFLYcEAT ONEdTWOdTHREEcC-SIMPLIFIED EATcHEADcC-SIM
PLIFIED HORSEcBONEcGHOSTcC-SIMPLIFIED FISHdBIRDdSALTcSIMPLIFIED WHEATdYELLOWcC-SIMPLIFIED FROGc
J-SIMPLIFIED EVENcC-SIMPLIFIED EVENcJ-SIMPLIFIED TOOTHcC-SIMPLIFIED TOOTHcJ-SIMPLIFIED DRAGONcC
-SIMPLIFIED DRAGONcTURTLEcJ-SIMPLIFIED TURTLEcC-SIMPLIFIED TURTLE@2F00aKANGXI RADICAL ONEcLINEc
DOTcSLASHcSECONDcHOOKcTWOcLIDcMANcLEGScENTERcEIGHTcDOWN BOXcCOVERcICEcTABLEcOPEN BOXcKNIFEcPOWE
RcWRAPcSPOONcRIGHT OPEN BOXcHIDING ENCLOSUREcTENcDIVINATIONcSEALcCLIFFcPRIVATEcAGAINcMOUTHcENCL
OSUREcEARTHcSCHOLARcGOdSLOWLYcEVENINGcBIGcWOMANcCHILDcROOFcINCHcSMALLcLAMEcCORPSEcSPROUTcMOUNTA
INcRIVERcWORKcONESELFcTURBANcDRYcSHORT THREADcDOTTED CLIFFcLONG STRIDEcTWO HANDScSHOOTcBOWcSNOU
TcBRISTLEcSTEPcHEARTcHALBERDcDOORcHANDcBRANCHcRAPcSCRIPTcDIPPERcAXEcSQUAREcNOTcSUNcSAYcMOONcTRE
EcLACKcSTOPcDEATHcWEAPONcDO NOTcCOMPAREcFURcCLANcSTEAMcWATERcFIREcCLAWcFATHERcDOUBLE XcHALF TRE
E TRUNKcSLICEcFANGcCOWcDOGcPROFOUNDcJADEcMELONcTILEcSWEETcLIFEcUSEcFIELDcBOLT OF CLOTHcSICKNESS
cDOTTED TENTcWHITEcSKINcDISHcEYEcSPEARcARROWcSTONEcSPIRITcTRACKcGRAINcCAVEcSTANDcBAMBOOcRICEcSI
LKcJARcNETcSHEEPcFEATHERcOLDcANDcPLOWcEARcBRUSHcMEATcMINISTERcSELFcARRIVEcMORTARcTONGUEcOPPOSEc
BOATcSTOPPINGcCOLORcGRASScTIGERcINSECTcBLOODcWALK ENCLOSUREcCLOTHEScWESTcSEEcHORNcSPEECHcVALLEY
cBEANcPIGcBADGERcSHELLcREDcRUNcFOOTcBODYcCARTcBITTERcMORNINGcWALKcCITYcWINEcDISTINGUISHcVILLAGE
cGOLDcLONGcGATEcMOUNDcSLAVEcSHORT TAILED BIRDcRAINcBLUEcWRONGcFACEcLEATHERcTANNED LEATHERcLEEKc
SOUNDcLEAFcWINDcFLYcEATcHEADcFRAGRANTcHORSEcBONEcTALLcHAIRcFIGHTcSACRIFICIAL WINEcCAULDRONcGHOS
TcFISHcBIRDcSALTcDEERcWHEATcHEMPcYELLOWcMILLETcBLACKcEMBROIDERYcFROGcTRIPODcDRUMcRATcNOSEcEVENc
TOOTHcDRAGONcTURTLEcFLUTE@2FF0aIDEOGRAPHIC DESCRIPTION CHARACTER LEFT TO RIGHTdABOVE TO BELOWdL
EFT TO MIDDLE AND RIGHTdABOVE TO MIDDLE AND BELOWdFULL SURROUNDdSURROUND FROM ABOVEfBELOWfLEFTf
UPPER LEFTgRIGHTfLOWER LEFTdOVERLAID@3000bSPACEbCOMMAbFULL STOPaDITTO MARKaJAPANESE INDUSTRIA
L STANDARD SYMBOLaIDEOGRAPHIC ITERATION MARKbCLOSING MARKbNUMBER ZEROaLEFT ANGLE BRACKETaRIGH
T ANGLE BRACKETaLEFT DOUBLE ANGLE BRACKETaRIGHT DOUBLE ANGLE BRACKETaLEFT CORNER BRACKETaRIGH
T CORNER BRACKETaLEFT WHITE CORNER BRACKETaRIGHT WHITE CORNER BRACKETaLEFT BLACK LENTICULAR BRA
CKETaRIGHT BLACK LENTICULAR BRACKETaPOSTAL MARKaGETA MARKaLEFT TORTOISE SHELL BRACKETaRIGHT TOR
TOISE SHELL BRACKETaLEFT WHITE LENTICULAR BRACKETaRIGHT WHITE LENTICULAR BRACKETaLEFT WHITE TOR
TOISE SHELL BRACKETaRIGHT WHITE TORTOISE SHELL BRACKETaLEFT WHITE SQUARE BRACKETaRIGHT WHITE SQ
UARE BRACKETaWAVE DASHaREVERSED DOUBLE PRIME QUOTATION MARKaDOUBLE PRIME QUOTATION MARKaLOW DOU
BLE PRIME QUOTATION MARKaPOSTAL MARK FACEaHANGZHOU NUMERAL ONEcTWOcTHREEcFOURcFIVEcSIXcSEVENcEI
GHTcNINEaIDEOGRAPHIC LEVEL TONE MARKbRISING TONE MARKbDEPARTING TONE MARKbENTERING TONE MARKaHA
NGUL SINGLE DOT TONE MARKbDOUBLE DOT TONE MARKaWAVY DASHaVERTICAL KANA REPEAT MARKdWITH VOICE
D SOUND MARKdMARK UPPER HALFdWITH VOICED SOUND MARK UPPER HALFdMARK LOWER HALFaCIRCLED POSTAL M
ARKaIDEOGRAPHIC TELEGRAPH LINE FEED SEPARATOR SYMBOLaHANGZHOU NUMERAL TENcTWENTYcTHIRTYaVERTICA
L IDEOGRAPHIC ITERATION MARKaMASU MARKaPART ALTERNATION MARKaIDEOGRAPHIC VARIATION INDICATORbHA
LF FILL SPACE@3041aHIRAGANA LETTER SMALL AcAcSMALL IcIcSMALL UcUcSMALL EcEcSMALL OcOcKAcGAcKIcG
IcKUcGUcKEcGEcKOcGOcSAcZAcSIcZIcSUcZUcSEcZEcSOcZOcTAcDAcTIcDIcSMALL TUcTUcDUcTEcDEcTOcDOcNAcNIc
NUcNEcNOcHAcBAcPAcHIcBIcPIcHUcBUcPUcHEcBEcPEcHOcBOcPOcMAcMIcMUcMEcMOcSMALL YAcYAcSMALL YUcYUcSM
ALL YOcYOcRAcRIcRUcREcROcSMALL WAcWAcWIcWEcWOcNcVUcSMALL KAdKE@3099aCOMBINING KATAKANA-HIRAGAN
A VOICED SOUND MARKcSEMI-VOICED SOUND MARKaKATAKANA-HIRAGANA VOICED SOUND MARKbSEMI-VOICED SOUN
D MARKaHIRAGANA ITERATION MARKbVOICED ITERATION MARKbDIGRAPH YORIaKATAKANA-HIRAGANA DOUBLE HYPH
ENaKATAKANA LETTER SMALL AcAcSMALL IcIcSMALL UcUcSMALL EcEcSMALL OcOcKAcGAcKIcGIcKUcGUcKEcGEcKO
cGOcSAcZAcSIcZIcSUcZUcSEcZEcSOcZOcTAcDAcTIcDIcSMALL TUcTUcDUcTEcDEcTOcDOcNAcNIcNUcNEcNOcHAcBAcP
AcHIcBIcPIcHUcBUcPUcHEcBEcPEcHOcBOcPOcMAcMIcMUcMEcMOcSMALL YAcYAcSMALL YUcYUcSMALL YOcYOcRAcRIc
RUcREcROcSMALL WAcWAcWIcWEcWOcNcVUcSMALL KAdKEcVAcVIcVEcVObMIDDLE DOTaKATAKANA-HIRAGANA PROLONG
ED SOUND MARKaKATAKANA ITERATION MARKbVOICED ITERATION MARKbDIGRAPH KOTO@3105aBOPOMOFO LETTER B
cPcMcFcDcTcNcLcGcKcHcJcQcXcZHcCHcSHcRcZcCcScAcOcEcEHcAIcEIcAUcOUcANcENcANGcENGcERcIcUcIUcVcNGcG
NcIHcO WITH DOT ABOVEcNN@3131aHANGUL LETTER KIYEOKcSSANGKIYEOKcKIYEOK-SIOScNIEUNcNIEUN-CIEUCcNI
EUN-HIEUHcTIKEUTcSSANGTIKEUTcRIEULcRIEUL-KIYEOKcRIEUL-MIEUMcRIEUL-PIEUPcRIEUL-SIOScRIEUL-THIEUT
HcRIEUL-PHIEUPHcRIEUL-HIEUHcMIEUMcPIEUPcSSANGPIEUPcPIEUP-SIOScSIOScSSANGSIOScIEUNGcCIEUCcSSANGC
IEUCcCHIEUCHcKHIEUKHcTHIEUTHcPHIEUPHcHIEUHcAcAEcYAcYAEcEOcEcYEOcYEcOcWAcWAEcOEcYOcUcWEOcWEcWIcY
UcEUcYIcIbFILLERbLETTER SSANGNIEUNcNIEUN-TIKEUTcNIEUN-SIOScNIEUN-PANSIOScRIEUL-KIYEOK-SIOScRIEU
L-TIKEUTcRIEUL-PIEUP-SIOScRIEUL-PANSIOScRIEUL-YEORINHIEUHcMIEUM-PIEUPcMIEUM-SIOScMIEUM-PANSIOSc
KAPYEOUNMIEUMcPIEUP-KIYEOKcPIEUP-TIKEUTcPIEUP-SIOS-KIYEOKcPIEUP-SIOS-TIKEUTcPIEUP-CIEUCcPIEUP-T
HIEUTHcKAPYEOUNPIEUPcKAPYEOUNSSANGPIEUPcSIOS-KIYEOKcSIOS-NIEUNcSIOS-TIKEUTcSIOS-PIEUPcSIOS-CIEU
CcPANSIOScSSANGIEUNGcYESIEUNGcYESIEUNG-SIOScYESIEUNG-PANSIOScKAPYEOUNPHIEUPHcSSANGHIEUHcYEORINH
IEUHcYO-YAcYO-YAEcYO-IcYU-YEOcYU-YEcYU-IcARAEAcARAEAE@3190aIDEOGRAPHIC ANNOTATION LINKING MARKc
REVERSE MARKcONE MARKcTWO MARKcTHREE MARKcFOUR MARKcTOP MARKcMIDDLE MARKcBOTTOM MARKcFIRST MARK
cSECOND MARKcTHIRD MARKcFOURTH MARKcHEAVEN MARKcEARTH MARKcMAN MARKaBOPOMOFO LETTER BUcZIcJIcGU
cEEcENNcOOcONNcIRcANNcINNcUNNcIMcNGGcAINNcAUNNcAMcOMcONGcINNNbFINAL LETTER PdTdKdHbLETTER GHcLH
cZYbFINAL LETTER GbLETTER GWcKWcOEcAHaCJK STROKE TcWGcXGcBXGcSWcHZZcHZGcHPcHZWGcSZWGcHZTcHZZPcH
PWGcHZWcHZZZcNcHcScPcSPcDcHZcHGcSZcSWZcSTcSGcPDcPZcTNcSZZcSWGcHXWGcHZZZGcPGcQ@31F0aKATAKANA LET
TER SMALL KUdSIdSUdTOdNUdHAdHIdHUdHEdHOdMUdRAdRIdRUdREdROaPARENTHESIZED HANGUL KIYEOKcNIEUNcTIK
EUTcRIEULcMIEUMcPIEUPcSIOScIEUNGcCIEUCcCHIEUCHcKHIEUKHcTHIEUTHcPHIEUPHcHIEUHcKIYEOK AcNIEUN AcT
IKEUT AcRIEUL AcMIEUM AcPIEUP AcSIOS AcIEUNG AcCIEUC AcCHIEUCH AcKHIEUKH AcTHIEUTH AcPHIEUPH Ac
HIEUH AcCIEUC UbKOREAN CHARACTER OJEONdO HU@3220bIDEOGRAPH ONEcTWOcTHREEcFOURcFIVEcSIXcSEVENcEI
GHTcNINEcTENcMOONcFIREcWATERcWOODcMETALcEARTHcSUNcSTOCKcHAVEcSOCIETYcNAMEcSPECIALcFINANCIALcCON
GRATULATIONcLABORcREPRESENTcCALLcSTUDYcSUPERVISEcENTERPRISEcRESOURCEcALLIANCEcFESTIVALcRESTcSEL
FcREACHaCIRCLED IDEOGRAPH QUESTIONcKINDERGARTENcSCHOOLcKOTObNUMBER TEN ON BLACK SQUAREcTWENTY O
N BLACK SQUAREcTHIRTY ON BLACK SQUAREcFORTY ON BLACK SQUAREcFIFTY ON BLACK SQUAREcSIXTY ON BLAC
K SQUAREcSEVENTY ON BLACK SQUAREcEIGHTY ON BLACK SQUAREaPARTNERSHIP SIGNaCIRCLED NUMBER TWENT
Y ONEdTWOdTHREEdFOURdFIVEdSIXdSEVENdEIGHTdNINEcTHIRTYdONEdTWOdTHREEdFOURdFIVEbHANGUL KIYEOKcNIE
UNcTIKEUTcRIEULcMIEUMcPIEUPcSIOScIEUNGcCIEUCcCHIEUCHcKHIEUKHcTHIEUTHcPHIEUPHcHIEUHcKIYEOK AcNIE
UN AcTIKEUT AcRIEUL AcMIEUM AcPIEUP AcSIOS AcIEUNG AcCIEUC AcCHIEUCH AcKHIEUKH AcTHIEUTH AcPHIE
UPH AcHIEUH AbKOREAN CHARACTER CHAMKOdJUEUIbHANGUL IEUNG UaKOREAN STANDARD SYMBOLaCIRCLED IDEOG
RAPH ONEcTWOcTHREEcFOURcFIVEcSIXcSEVENcEIGHTcNINEcTENcMOONcFIREcWATERcWOODcMETALcEARTHcSUNcSTOC
KcHAVEcSOCIETYcNAMEcSPECIALcFINANCIALcCONGRATULATIONcLABORcSECRETcMALEcFEMALEcSUITABLEcEXCELLEN
TcPRINTcATTENTIONcITEMcRESTcCOPYcCORRECTcHIGHcCENTREcLOWcLEFTcRIGHTcMEDICINEcRELIGIONcSTUDYcSUP
ERVISEcENTERPRISEcRESOURCEcALLIANCEcNIGHTbNUMBER THIRTY SIXdSEVENdEIGHTdNINEcFORTYdONEdTWOdTHRE
EdFOURdFIVEdSIXdSEVENdEIGHTdNINEcFIFTYaIDEOGRAPHIC TELEGRAPH SYMBOL FOR JANUARYeFEBRUARYeMARCHe
APRILeMAYeJUNEeJULYeAUGUSTeSEPTEMBEReOCTOBEReNOVEMBEReDECEMBERaSQUARE HGbERGbEVaLIMITED LIABILI
TY SIGNaCIRCLED KATAKANA AcIcUcEcOcKAcKIcKUcKEcKOcSAcSIcSUcSEcSOcTAcTIcTUcTEcTOcNAcNIcNUcNEcNOc
HAcHIcHUcHEcHOcMAcMIcMUcMEcMOcYAcYUcYOcRAcRIcRUcREcROcWAcWIcWEcWOaSQUARE ERA NAME REIWAbAPAATOb
ARUHUAbANPEAbAARUbININGUbINTIbUONbESUKUUDObEEKAAbONSUbOOMUbKAIRIbKARATTObKARORIIbGARONbGANMAbGI
GAbGINIIbKYURIIbGIRUDAAbKIRObKIROGURAMUbKIROMEETORUbKIROWATTObGURAMUbGURAMUTONbKURUZEIRObKUROON
EbKEESUbKORUNAbKOOPObSAIKURUbSANTIIMUbSIRINGUbSENTIbSENTObDAASUbDESIbDORUbTONbNANObNOTTObHAITUb
PAASENTObPAATUbBAARERUbPIASUTORUbPIKURUbPIKObBIRUbHUARADDObHUIITObBUSSYERUbHURANbHEKUTAARUbPESO
bPENIHIbHERUTUbPENSUbPEEZIbBEETAbPOINTObBORUTObHONbPONDObHOORUbHOONbMAIKURObMAIRUbMAHHAbMARUKUb
MANSYONbMIKURONbMIRIbMIRIBAARUbMEGAbMEGATONbMEETORUbYAADObYAARUbYUANbRITTORUbRIRAbRUPIIbRUUBURU
bREMUbRENTOGENbWATTOaIDEOGRAPHIC TELEGRAPH SYMBOL FOR HOUR ZEROfONEfTWOfTHREEfFOURfFIVEfSIXfSEV
ENfEIGHTfNINEfTENfELEVENfTWELVEfTHIRTEENfFOURTEENfFIFTEENfSIXTEENfSEVENTEENfEIGHTEENfNINETEENfT
WENTYfTWENTY-ONEfTWENTY-TWOfTWENTY-THREEfTWENTY-FOURaSQUARE HPAbDAbAUbBARbOVbPCbDMcSQUAREDcCUBE
DbIUbERA NAME HEISEIdSYOUWAdTAISYOUdMEIZIbCORPORATIONbPA AMPSbNAbMU AbMAbKAbKBbMBbGBbCALbKCALbP
FbNFbMU FcGbMGbKGbHZbKHZbMHZbGHZbTHZbMU LbMLbDLbKLbFMbNMbMU MbMMbCMbKMbMM SQUAREDbCM SQUAREDb
M SQUAREDbKM SQUAREDbMM CUBEDbCM CUBEDbM CUBEDbKM CUBEDbM OVER SeSQUAREDbPAbKPAbMPAbGPAbRADcOVE
R SeSQUAREDbPSbNSbMU SbMSbPVbNVbMU VbMVbKVbMV MEGAbPWbNWbMU WbMWbKWbMW MEGAbK OHMbM OHMbAMbBQbC
CbCDbC OVER KGbCObDBbGYbHAbHPbINbKKbKM CAPITALbKTbLMbLNbLOGbLXbMB SMALLbMILbMOLbPHbPMbPPMbPRbSR
bSVbWBbV OVER MbA OVER MaIDEOGRAPHIC TELEGRAPH SYMBOL FOR DAY ONEfTWOfTHREEfFOURfFIVEfSIXfSEVEN
fEIGHTfNINEfTENfELEVENfTWELVEfTHIRTEENfFOURTEENfFIFTEENfSIXTEENfSEVENTEENfEIGHTEENfNINETEENfTWE
NTYfTWENTY-ONEfTWENTY-TWOfTWENTY-THREEfTWENTY-FOURfTWENTY-FIVEfTWENTY-SIXfTWENTY-SEVENfTWENTY-E
IGHTfTWENTY-NINEfTHIRTYfTHIRTY-ONEaSQUARE GAL@4DC0aHEXAGRAM FOR THE CREATIVE HEAVENdRECEPTIVE E
ARTHcDIFFICULTY AT THE BEGINNINGcYOUTHFUL FOLLYcWAITINGcCONFLICTcTHE ARMYcHOLDING TOGETHERcSMAL
L TAMINGcTREADINGcPEACEcSTANDSTILLcFELLOWSHIPcGREAT POSSESSIONcMODESTYcENTHUSIASMcFOLLOWINGcWOR
K ON THE DECAYEDcAPPROACHcCONTEMPLATIONcBITING THROUGHcGRACEcSPLITTING APARTcRETURNcINNOCENCEcG
REAT TAMINGcMOUTH CORNERScGREAT PREPONDERANCEcTHE ABYSMAL WATERdCLINGING FIREcINFLUENCEcDURATIO
NcRETREATcGREAT POWERcPROGRESScDARKENING OF THE LIGHTcTHE FAMILYcOPPOSITIONcOBSTRUCTIONcDELIVER
ANCEcDECREASEcINCREASEcBREAKTHROUGHcCOMING TO MEETcGATHERING TOGETHERcPUSHING UPWARDcOPPRESSION
cTHE WELLcREVOLUTIONcTHE CAULDRONdAROUSING THUNDERdKEEPING STILL MOUNTAINcDEVELOPMENTcTHE MARRY
ING MAIDENcABUNDANCEcTHE WANDERERdGENTLE WINDdJOYOUS LAKEcDISPERSIONcLIMITATIONcINNER TRUTHcSMA
LL PREPONDERANCEcAFTER COMPLETIONcBEFORE COMPLETION@A000aYI SYLLABLE ITcIXcIcIPcIETcIEXcIEcIEPc
ATcAXcAcAPcUOXcUOcUOPcOTcOXcOcOPcEXcEcWU@A015cITERATION MARKcBITcBIXcBIcBIPcBIETcBIEXcBIEcBIEPc
BATcBAXcBAcBAPcBUOXcBUOcBUOPcBOTcBOXcBOcBOPcBEXcBEcBEPcBUTcBUXcBUcBUPcBURXcBURcBYTcBYXcBYcBYPcB
YRXcBYRcPITcPIXcPIcPIPcPIEXcPIEcPIEPcPATcPAXcPAcPAPcPUOXcPUOcPUOPcPOTcPOXcPOcPOPcPUTcPUXcPUcPUP
cPURXcPURcPYTcPYXcPYcPYPcPYRXcPYRcBBITcBBIXcBBIcBBIPcBBIETcBBIEXcBBIEcBBIEPcBBATcBBAXcBBAcBBAPc
BBUOXcBBUOcBBUOPcBBOTcBBOXcBBOcBBOPcBBEXcBBEcBBEPcBBUTcBBUXcBBUcBBUPcBBURXcBBURcBBYTcBBYXcBBYcB
BYPcNBITcNBIXcNBIcNBIPcNBIEXcNBIEcNBIEPcNBATcNBAXcNBAcNBAPcNBOTcNBOXcNBOcNBOPcNBUTcNBUXcNBUcNBU
PcNBURXcNBURcNBYTcNBYXcNBYcNBYPcNBYRXcNBYRcHMITcHMIXcHMIcHMIPcHMIEXcHMIEcHMIEPcHMATcHMAXcHMAcHM
APcHMUOXcHMUOcHMUOPcHMOTcHMOXcHMOcHMOPcHMUTcHMUXcHMUcHMUPcHMURXcHMURcHMYXcHMYcHMYPcHMYRXcHMYRcM
ITcMIXcMIcMIPcMIEXcMIEcMIEPcMATcMAXcMAcMAPcMUOTcMUOXcMUOcMUOPcMOTcMOXcMOcMOPcMEXcMEcMUTcMUXcMUc
MUPcMURXcMURcMYTcMYXcMYcMYPcFITcFIXcFIcFIPcFATcFAXcFAcFAPcFOXcFOcFOPcFUTcFUXcFUcFUPcFURXcFURcFY
TcFYXcFYcFYPcVITcVIXcVIcVIPcVIETcVIEXcVIEcVIEPcVATcVAXcVAcVAPcVOTcVOXcVOcVOPcVEXcVEPcVUTcVUXcVU
cVUPcVURXcVURcVYTcVYXcVYcVYPcVYRXcVYRcDITcDIXcDIcDIPcDIEXcDIEcDIEPcDATcDAXcDAcDAPcDUOXcDUOcDOTc
DOXcDOcDOPcDEXcDEcDEPcDUTcDUXcDUcDUPcDURXcDURcTITcTIXcTIcTIPcTIEXcTIEcTIEPcTATcTAXcTAcTAPcTUOTc
TUOXcTUOcTUOPcTOTcTOXcTOcTOPcTEXcTEcTEPcTUTcTUXcTUcTUPcTURXcTURcDDITcDDIXcDDIcDDIPcDDIEXcDDIEcD
DIEPcDDATcDDAXcDDAcDDAPcDDUOXcDDUOcDDUOPcDDOTcDDOXcDDOcDDOPcDDEXcDDEcDDEPcDDUTcDDUXcDDUcDDUPcDD
URXcDDURcNDITcNDIXcNDIcNDIPcNDIEXcNDIEcNDATcNDAXcNDAcNDAPcNDOTcNDOXcNDOcNDOPcNDEXcNDEcNDEPcNDUT
cNDUXcNDUcNDUPcNDURXcNDURcHNITcHNIXcHNIcHNIPcHNIETcHNIEXcHNIEcHNIEPcHNATcHNAXcHNAcHNAPcHNUOXcHN
UOcHNOTcHNOXcHNOPcHNEXcHNEcHNEPcHNUTcNITcNIXcNIcNIPcNIEXcNIEcNIEPcNAXcNAcNAPcNUOXcNUOcNUOPcNOTc
NOXcNOcNOPcNEXcNEcNEPcNUTcNUXcNUcNUPcNURXcNURcHLITcHLIXcHLIcHLIPcHLIEXcHLIEcHLIEPcHLATcHLAXcHLA
cHLAPcHLUOXcHLUOcHLUOPcHLOXcHLOcHLOPcHLEXcHLEcHLEPcHLUTcHLUXcHLUcHLUPcHLURXcHLURcHLYTcHLYXcHLYc
HLYPcHLYRXcHLYRcLITcLIXcLIcLIPcLIETcLIEXcLIEcLIEPcLATcLAXcLAcLAPcLUOTcLUOXcLUOcLUOPcLOTcLOXcLOc
LOPcLEXcLEcLEPcLUTcLUXcLUcLUPcLURXcLURcLYTcLYXcLYcLYPcLYRXcLYRcGITcGIXcGIcGIPcGIETcGIEXcGIEcGIE
PcGATcGAXcGAcGAPcGUOTcGUOXcGUOcGUOPcGOTcGOXcGOcGOPcGETcGEXcGEcGEPcGUTcGUXcGUcGUPcGURXcGURcKITcK
IXcKIcKIPcKIEXcKIEcKIEPcKATcKAXcKAcKAPcKUOXcKUOcKUOPcKOTcKOXcKOcKOPcKETcKEXcKEcKEPcKUTcKUXcKUcK
UPcKURXcKURcGGITcGGIXcGGIcGGIEXcGGIEcGGIEPcGGATcGGAXcGGAcGGAPcGGUOTcGGUOXcGGUOcGGUOPcGGOTcGGOXc
GGOcGGOPcGGETcGGEXcGGEcGGEPcGGUTcGGUXcGGUcGGUPcGGURXcGGURcMGIEXcMGIEcMGATcMGAXcMGAcMGAPcMGUOXcM
GUOcMGUOPcMGOTcMGOXcMGOcMGOPcMGEXcMGEcMGEPcMGUTcMGUXcMGUcMGUPcMGURXcMGURcHXITcHXIXcHXIcHXIPcHXI
ETcHXIEXcHXIEcHXIEPcHXATcHXAXcHXAcHXAPcHXUOTcHXUOXcHXUOcHXUOPcHXOTcHXOXcHXOcHXOPcHXEXcHXEcHXEPc
NGIEXcNGIEcNGIEPcNGATcNGAXcNGAcNGAPcNGUOTcNGUOXcNGUOcNGOTcNGOXcNGOcNGOPcNGEXcNGEcNGEPcHITcHIEXc
HIEcHATcHAXcHAcHAPcHUOTcHUOXcHUOcHUOPcHOTcHOXcHOcHOPcHEXcHEcHEPcWATcWAXcWAcWAPcWUOXcWUOcWUOPcWO
XcWOcWOPcWEXcWEcWEPcZITcZIXcZIcZIPcZIEXcZIEcZIEPcZATcZAXcZAcZAPcZUOXcZUOcZUOPcZOTcZOXcZOcZOPcZE
XcZEcZEPcZUTcZUXcZUcZUPcZURXcZURcZYTcZYXcZYcZYPcZYRXcZYRcCITcCIXcCIcCIPcCIETcCIEXcCIEcCIEPcCATc
CAXcCAcCAPcCUOXcCUOcCUOPcCOTcCOXcCOcCOPcCEXcCEcCEPcCUTcCUXcCUcCUPcCURXcCURcCYTcCYXcCYcCYPcCYRXc
CYRcZZITcZZIXcZZIcZZIPcZZIETcZZIEXcZZIEcZZIEPcZZATcZZAXcZZAcZZAPcZZOXcZZOcZZOPcZZEXcZZEcZZEPcZZ
UXcZZUcZZUPcZZURXcZZURcZZYTcZZYXcZZYcZZYPcZZYRXcZZYRcNZITcNZIXcNZIcNZIPcNZIEXcNZIEcNZIEPcNZATcN
ZAXcNZAcNZAPcNZUOXcNZUOcNZOXcNZOPcNZEXcNZEcNZUXcNZUcNZUPcNZURXcNZURcNZYTcNZYXcNZYcNZYPcNZYRXcNZ
YRcSITcSIXcSIcSIPcSIEXcSIEcSIEPcSATcSAXcSAcSAPcSUOXcSUOcSUOPcSOTcSOXcSOcSOPcSEXcSEcSEPcSUTcSUXc
SUcSUPcSURXcSURcSYTcSYXcSYcSYPcSYRXcSYRcSSITcSSIXcSSIcSSIPcSSIEXcSSIEcSSIEPcSSATcSSAXcSSAcSSAPc
SSOTcSSOXcSSOcSSOPcSSEXcSSEcSSEPcSSUTcSSUXcSSUcSSUPcSSYTcSSYXcSSYcSSYPcSSYRXcSSYRcZHATcZHAXcZHA
cZHAPcZHUOXcZHUOcZHUOPcZHOTcZHOXcZHOcZHOPcZHETcZHEXcZHEcZHEPcZHUTcZHUXcZHUcZHUPcZHURXcZHURcZHYT
cZHYXcZHYcZHYPcZHYRXcZHYRcCHATcCHAXcCHAcCHAPcCHUOTcCHUOXcCHUOcCHUOPcCHOTcCHOXcCHOcCHOPcCHETcCHE
XcCHEcCHEPcCHUXcCHUcCHUPcCHURXcCHURcCHYTcCHYXcCHYcCHYPcCHYRXcCHYRcRRAXcRRAcRRUOXcRRUOcRROTcRROX
cRROcRROPcRRETcRREXcRREcRREPcRRUTcRRUXcRRUcRRUPcRRURXcRRURcRRYTcRRYXcRRYcRRYPcRRYRXcRRYRcNRATcN
RAXcNRAcNRAPcNROXcNROcNROPcNRETcNREXcNREcNREPcNRUTcNRUXcNRUcNRUPcNRURXcNRURcNRYTcNRYXcNRYcNRYPc
NRYRXcNRYRcSHATcSHAXcSHAcSHAPcSHUOXcSHUOcSHUOPcSHOTcSHOXcSHOcSHOPcSHETcSHEXcSHEcSHEPcSHUTcSHUXc
SHUcSHUPcSHURXcSHURcSHYTcSHYXcSHYcSHYPcSHYRXcSHYRcRATcRAXcRAcRAPcRUOXcRUOcRUOPcROTcROXcROcROPcR
EXcREcREPcRUTcRUXcRUcRUPcRURXcRURcRYTcRYXcRYcRYPcRYRXcRYRcJITcJIXcJIcJIPcJIETcJIEXcJIEcJIEPcJUO
TcJUOXcJUOcJUOPcJOTcJOXcJOcJOPcJUTcJUXcJUcJUPcJURXcJURcJYTcJYXcJYcJYPcJYRXcJYRcQITcQIXcQIcQIPcQ
IETcQIEXcQIEcQIEPcQUOTcQUOXcQUOcQUOPcQOTcQOXcQOcQOPcQUTcQUXcQUcQUPcQURXcQURcQYTcQYXcQYcQYPcQYRX
cQYRcJJITcJJIXcJJIcJJIPcJJIETcJJIEXcJJIEcJJIEPcJJUOXcJJUOcJJUOPcJJOTcJJOXcJJOcJJOPcJJUTcJJUXcJJ
UcJJUPcJJURXcJJURcJJYTcJJYXcJJYcJJYPcNJITcNJIXcNJIcNJIPcNJIETcNJIEXcNJIEcNJIEPcNJUOXcNJUOcNJOTc
NJOXcNJOcNJOPcNJUXcNJUcNJUPcNJURXcNJURcNJYTcNJYXcNJYcNJYPcNJYRXcNJYRcNYITcNYIXcNYIcNYIPcNYIETcN
YIEXcNYIEcNYIEPcNYUOXcNYUOcNYUOPcNYOTcNYOXcNYOcNYOPcNYUTcNYUXcNYUcNYUPcXITcXIXcXIcXIPcXIETcXIEX
cXIEcXIEPcXUOXcXUOcXOTcXOXcXOcXOPcXYTcXYXcXYcXYPcXYRXcXYRcYITcYIXcYIcYIPcYIETcYIEXcYIEcYIEPcYUO
TcYUOXcYUOcYUOPcYOTcYOXcYOcYOPcYUTcYUXcYUcYUPcYURXcYURcYYTcYYXcYYcYYPcYYRXcYYR@A490bRADICAL QOT
cLIcKITcNYIPcCYPcSSIcGGOPcGEPcMIcHXITcLYRcBBUTcMOPcYOcPUTcHXUOcTATcGAcZUPcCYTcDDURcBURcGGUOcNYO
PcTUcOPcJJUTcZOTcPYTcHMOcYITcVURcSHYcVEPcZAcJOcNZUPcJJYcGOTcJJIEcWOcDUcSHURcLIEcCYcCUOPcCIPcHXO
PcSHATcZURcSHOPcCHEcZZIETcNBIEcKE@A4D0aLISU LETTER BAcPAcPHAcDAcTAcTHAcGAcKAcKHAcJAcCAcCHAcDZAc
TSAcTSHAcMAcNAcLAcSAcZHAcZAcNGAcHAcXAcHHAcFAcWAcSHAcYAcGHAcAcAEcEcEUcIcOcUcUEcUHcOEcTONE MYA TI
dNA POdMYA CYAeBOeNAeJEUbPUNCTUATION COMMAcFULL STOPaVAI SYLLABLE EEcEENcHEEcWEEcWEENcPEEcBHEEc
BEEcMBEEcKPEEcMGBEEcGBEEcFEEcVEEcTEEcTHEEcDHEEcDHHEEcLEEcREEcDEEcNDEEcSEEcSHEEcZEEcZHEEcCEEcJEE
cNJEEcYEEcKEEcNGGEEcGEEcMEEcNEEcNYEEcIcINcHIcHINcWIcWINcPIcBHIcBIcMBIcKPIcMGBIcGBIcFIcVIcTIcTHI
cDHIcDHHIcLIcRIcDIcNDIcSIcSHIcZIcZHIcCIcJIcNJIcYIcKIcNGGIcGIcMIcNIcNYIcAcANcNGANcHAcHANcWAcWANc
PAcBHAcBAcMBAcKPAcKPANcMGBAcGBAcFAcVAcTAcTHAcDHAcDHHAcLAcRAcDAcNDAcSAcSHAcZAcZHAcCAcJAcNJAcYAcK
AcKANcNGGAcGAcMAcNAcNYAcOOcOONcHOOcWOOcWOONcPOOcBHOOcBOOcMBOOcKPOOcMGBOOcGBOOcFOOcVOOcTOOcTHOOc
DHOOcDHHOOcLOOcROOcDOOcNDOOcSOOcSHOOcZOOcZHOOcCOOcJOOcNJOOcYOOcKOOcNGGOOcGOOcMOOcNOOcNYOOcUcUNc
HUcHUNcWUcWUNcPUcBHUcBUcMBUcKPUcMGBUcGBUcFUcVUcTUcTHUcDHUcDHHUcLUcRUcDUcNDUcSUcSHUcZUcZHUcCUcJU
cNJUcYUcKUcNGGUcGUcMUcNUcNYUcOcONcNGONcHOcHONcWOcWONcPOcBHOcBOcMBOcKPOcMGBOcGBOcGBONcFOcVOcTOcT
HOcDHOcDHHOcLOcROcDOcNDOcSOcSHOcZOcZHOcCOcJOcNJOcYOcKOcNGGOcGOcMOcNOcNYOcEcENcNGENcHEcHENcWEcWE
NcPEcBHEcBEcMBEcKPEcKPENcMGBEcGBEcGBENcFEcVEcTEcTHEcDHEcDHHEcLEcREcDEcNDEcSEcSHEcZEcZHEcCEcJEcN
JEcYEcKEcNGGEcNGGENcGEcGENcMEcNEcNYEcNGcLENGTHENERbCOMMAbFULL STOPbQUESTION MARKbSYLLABLE NDOL
E FAdKAdSOObSYMBOL FEENGcKEENGcTINGcNIIcBANGcFAAcTAAcDANGcDOONGcKUNGcTONGcDO-OcJONGbDIGIT ZEROc
ONEcTWOcTHREEcFOURcFIVEcSIXcSEVENcEIGHTcNINEbSYLLABLE NDOLE MAdDO@A640aCYRILLIC CAPITAL LETTE
R ZEMLYAbSMALL LETTER ZEMLYAbCAPITAL LETTER DZELObSMALL LETTER DZELObCAPITAL LETTER REVERSED DZ
EbSMALL LETTER REVERSED DZEbCAPITAL LETTER IOTAbSMALL LETTER IOTAbCAPITAL LETTER DJERVbSMALL LE
TTER DJERVbCAPITAL LETTER MONOGRAPH UKbSMALL LETTER MONOGRAPH UKbCAPITAL LETTER BROAD OMEGAbSMA
LL LETTER BROAD OMEGAbCAPITAL LETTER NEUTRAL YERbSMALL LETTER NEUTRAL YERbCAPITAL LETTER YERU W
ITH BACK YERbSMALL LETTER YERU WITH BACK YERbCAPITAL LETTER IOTIFIED YATbSMALL LETTER IOTIFIE
D YATbCAPITAL LETTER REVERSED YUbSMALL LETTER REVERSED YUbCAPITAL LETTER IOTIFIED AbSMALL LETTE
R IOTIFIED AbCAPITAL LETTER CLOSED LITTLE YUSbSMALL LETTER CLOSED LITTLE YUSbCAPITAL LETTER BLE
NDED YUSbSMALL LETTER BLENDED YUSbCAPITAL LETTER IOTIFIED CLOSED LITTLE YUSbSMALL LETTER IOTIFI
ED CLOSED LITTLE YUSbCAPITAL LETTER YNbSMALL LETTER YNbCAPITAL LETTER REVERSED TSEbSMALL LETTE
R REVERSED TSEbCAPITAL LETTER SOFT DEbSMALL LETTER SOFT DEbCAPITAL LETTER SOFT ELbSMALL LETTE
R SOFT ELbCAPITAL LETTER SOFT EMbSMALL LETTER SOFT EMbCAPITAL LETTER MONOCULAR ObSMALL LETTER M
ONOCULAR ObCAPITAL LETTER BINOCULAR ObSMALL LETTER BINOCULAR ObCAPITAL LETTER DOUBLE MONOCULA
R ObSMALL LETTER DOUBLE MONOCULAR ObLETTER MULTIOCULAR OaCOMBINING CYRILLIC VZMETcTEN MILLION
S SIGNcHUNDRED MILLIONS SIGNcTHOUSAND MILLIONS SIGNaSLAVONIC ASTERISKaCOMBINING CYRILLIC LETTE
R UKRAINIAN IEdIdYIdUdHARD SIGNdYERUdSOFT SIGNdOMEGAcKAVYKAcPAYEROKaCYRILLIC KAVYKAbPAYEROKbCAP
ITAL LETTER DWEbSMALL LETTER DWEbCAPITAL LETTER DZWEbSMALL LETTER DZWEbCAPITAL LETTER ZHWEbSMAL
L LETTER ZHWEbCAPITAL LETTER CCHEbSMALL LETTER CCHEbCAPITAL LETTER DZZEbSMALL LETTER DZZEbCAPIT
AL LETTER TE WITH MIDDLE HOOKbSMALL LETTER TE WITH MIDDLE HOOKbCAPITAL LETTER TWEbSMALL LETTE
R TWEbCAPITAL LETTER TSWEbSMALL LETTER TSWEbCAPITAL LETTER TSSEbSMALL LETTER TSSEbCAPITAL LETTE
R TCHEbSMALL LETTER TCHEbCAPITAL LETTER HWEbSMALL LETTER HWEbCAPITAL LETTER SHWEbSMALL LETTER S
HWEbCAPITAL LETTER DOUBLE ObSMALL LETTER DOUBLE ObCAPITAL LETTER CROSSED ObSMALL LETTER CROSSE
D OaMODIFIER LETTER CYRILLIC HARD SIGNdSOFT SIGNaCOMBINING CYRILLIC LETTER EFdIOTIFIED EaBAMU
M LETTER AcKAcUcKUcEEcREEcTAEcOcNYIcIcLAcPAcRIIcRIEEcLEEEEcMEEEEcTAAcNDAAcNJAEMcMcSUUcMUcSHIIcS
IcSHEUXcSEUXcKYEEcKETcNUAEcNUcNJUAEcYOQcSHUcYUQcYAcNSHAcKEUXcPEUXcNJEEcNTEEcPUEcWUEcPEEcFEEcRUc
LUcMIcNIcREUXcRAEcKENcNGKWAENcNGGAcNGAcSHOcPUAEcFUcFOMcWAcNAcLIcPIcLOQcKOcMBENcRENcMENcMAcTIcKI
cMOcMBAAcTETcKPAcTENcNTUUcSAMBAcFAAMAEcKOVUUcKOGHOMbCOMBINING MARK KOQNDONdTUKWENTISbNJAEMLIbFU
LL STOPbCOLONbCOMMAbSEMICOLONbQUESTION MARK@A700aMODIFIER LETTER CHINESE TONE YIN PINGeYANG PIN
GeYIN SHANGeYANG SHANGeYIN QUeYANG QUeYIN RUeYANG RUcEXTRA-HIGH DOTTED TONE BARcHIGH DOTTED TON
E BARcMID DOTTED TONE BARcLOW DOTTED TONE BARcEXTRA-LOW DOTTED TONE BARcEXTRA-HIGH DOTTED LEFT-
STEM TONE BARcHIGH DOTTED LEFT-STEM TONE BARcMID DOTTED LEFT-STEM TONE BARcLOW DOTTED LEFT-STE
M TONE BARcEXTRA-LOW DOTTED LEFT-STEM TONE BARcEXTRA-HIGH LEFT-STEM TONE BARcHIGH LEFT-STEM TON
E BARcMID LEFT-STEM TONE BARcLOW LEFT-STEM TONE BARcEXTRA-LOW LEFT-STEM TONE BARcDOT VERTICAL B
ARdSLASHdHORIZONTAL BARcLOWER RIGHT CORNER ANGLEcRAISED UP ARROWdDOWN ARROWdEXCLAMATION MARKdIN
VERTED EXCLAMATION MARKcLOW INVERTED EXCLAMATION MARKcSTRESS AND HIGH TONEeLOW TONEaLATIN CAPIT
AL LETTER EGYPTOLOGICAL ALEFbSMALL LETTER EGYPTOLOGICAL ALEFbCAPITAL LETTER EGYPTOLOGICAL AINbS
MALL LETTER EGYPTOLOGICAL AINbCAPITAL LETTER HENGbSMALL LETTER HENGbCAPITAL LETTER TZbSMALL LET
TER TZbCAPITAL LETTER TRESILLObSMALL LETTER TRESILLObCAPITAL LETTER CUATRILLObSMALL LETTER CUAT
RILLObCAPITAL LETTER CUATRILLO WITH COMMAbSMALL LETTER CUATRILLO WITH COMMAbLETTER SMALL CAPITA
L FeSbCAPITAL LETTER AAbSMALL LETTER AAbCAPITAL LETTER AObSMALL LETTER AObCAPITAL LETTER AUbSMA
LL LETTER AUbCAPITAL LETTER AVbSMALL LETTER AVbCAPITAL LETTER AV WITH HORIZONTAL BARbSMALL LETT
ER AV WITH HORIZONTAL BARbCAPITAL LETTER AYbSMALL LETTER AYbCAPITAL LETTER REVERSED C WITH DOTb
SMALL LETTER REVERSED C WITH DOTbCAPITAL LETTER K WITH STROKEbSMALL LETTER K WITH STROKEbCAPITA
L LETTER K WITH DIAGONAL STROKEbSMALL LETTER K WITH DIAGONAL STROKEbCAPITAL LETTER K WITH STROK
E AND DIAGONAL STROKEbSMALL LETTER K WITH STROKE AND DIAGONAL STROKEbCAPITAL LETTER BROKEN LbSM
ALL LETTER BROKEN LbCAPITAL LETTER L WITH HIGH STROKEbSMALL LETTER L WITH HIGH STROKEbCAPITAL L
ETTER O WITH LONG STROKE OVERLAYbSMALL LETTER O WITH LONG STROKE OVERLAYbCAPITAL LETTER O WIT
H LOOPbSMALL LETTER O WITH LOOPbCAPITAL LETTER OObSMALL LETTER OObCAPITAL LETTER P WITH STROK
E THROUGH DESCENDERbSMALL LETTER P WITH STROKE THROUGH DESCENDERbCAPITAL LETTER P WITH FLOURISH
bSMALL LETTER P WITH FLOURISHbCAPITAL LETTER P WITH SQUIRREL TAILbSMALL LETTER P WITH SQUIRRE
L TAILbCAPITAL LETTER Q WITH STROKE THROUGH DESCENDERbSMALL LETTER Q WITH STROKE THROUGH DESCEN
DERbCAPITAL LETTER Q WITH DIAGONAL STROKEbSMALL LETTER Q WITH DIAGONAL STROKEbCAPITAL LETTE
R R ROTUNDAbSMALL LETTER R ROTUNDAbCAPITAL LETTER RUM ROTUNDAbSMALL LETTER RUM ROTUNDAbCAPITA
L LETTER V WITH DIAGONAL STROKEbSMALL LETTER V WITH DIAGONAL STROKEbCAPITAL LETTER VYbSMALL LET
TER VYbCAPITAL LETTER VISIGOTHIC ZbSMALL LETTER VISIGOTHIC ZbCAPITAL LETTER THORN WITH STROKEbS
MALL LETTER THORN WITH STROKEbCAPITAL LETTER THORN WITH STROKE THROUGH DESCENDERbSMALL LETTER T
HORN WITH STROKE THROUGH DESCENDERbCAPITAL LETTER VENDbSMALL LETTER VENDbCAPITAL LETTER ETbSMAL
L LETTER ETbCAPITAL LETTER ISbSMALL LETTER ISbCAPITAL LETTER CONbSMALL LETTER CONaMODIFIER LETT
ER USaLATIN SMALL LETTER DUMdLUMdMUMdNUMdRUMbLETTER SMALL CAPITAL RUMbSMALL LETTER TUMdUMbCAPIT
AL LETTER INSULAR DbSMALL LETTER INSULAR DbCAPITAL LETTER INSULAR FbSMALL LETTER INSULAR FbCAPI
TAL LETTER INSULAR GdTURNED INSULAR GbSMALL LETTER TURNED INSULAR GbCAPITAL LETTER TURNED LbSMA
LL LETTER TURNED LbCAPITAL LETTER INSULAR RbSMALL LETTER INSULAR RbCAPITAL LETTER INSULAR SbSMA
LL LETTER INSULAR SbCAPITAL LETTER INSULAR TbSMALL LETTER INSULAR TaMODIFIER LETTER LOW CIRCUMF
LEX ACCENTcCOLONcSHORT EQUALS SIGNaLATIN CAPITAL LETTER SALTILLObSMALL LETTER SALTILLObCAPITA
L LETTER TURNED HbSMALL LETTER L WITH RETROFLEX HOOK AND BELTbLETTER SINOLOGICAL DOTbCAPITAL LE
TTER N WITH DESCENDERbSMALL LETTER N WITH DESCENDERbCAPITAL LETTER C WITH BARbSMALL LETTER C WI
TH BARfPALATAL HOOKdH WITH PALATAL HOOKbCAPITAL LETTER B WITH FLOURISHbSMALL LETTER B WITH FLOU
RISHbCAPITAL LETTER F WITH STROKEbSMALL LETTER F WITH STROKEbCAPITAL LETTER VOLAPUK AEbSMALL LE
TTER VOLAPUK AEbCAPITAL LETTER VOLAPUK OEbSMALL LETTER VOLAPUK OEbCAPITAL LETTER VOLAPUK UEbSMA
LL LETTER VOLAPUK UEbCAPITAL LETTER G WITH OBLIQUE STROKEbSMALL LETTER G WITH OBLIQUE STROKEbCA
PITAL LETTER K WITH OBLIQUE STROKEbSMALL LETTER K WITH OBLIQUE STROKEbCAPITAL LETTER N WITH OBL
IQUE STROKEbSMALL LETTER N WITH OBLIQUE STROKEbCAPITAL LETTER R WITH OBLIQUE STROKEbSMALL LETTE
R R WITH OBLIQUE STROKEbCAPITAL LETTER S WITH OBLIQUE STROKEbSMALL LETTER S WITH OBLIQUE STROKE
bCAPITAL LETTER H WITH HOOKdREVERSED OPEN EdSCRIPT GdL WITH BELTdSMALL CAPITAL IbLETTER SMALL C
APITAL QbCAPITAL LETTER TURNED KeTdJ WITH CROSSED-TAILdCHIdBETAbSMALL LETTER BETAbCAPITAL LETTE
R OMEGAbSMALL LETTER OMEGAbCAPITAL LETTER U WITH STROKEbSMALL LETTER U WITH STROKEbCAPITAL LETT
ER GLOTTAL AbSMALL LETTER GLOTTAL AbCAPITAL LETTER GLOTTAL IbSMALL LETTER GLOTTAL IbCAPITAL LET
TER GLOTTAL UbSMALL LETTER GLOTTAL UbCAPITAL LETTER OLD POLISH ObSMALL LETTER OLD POLISH ObCAPI
TAL LETTER ANGLICANA WbSMALL LETTER ANGLICANA WbCAPITAL LETTER C WITH PALATAL HOOKdS WITH HOOKd
Z WITH PALATAL HOOKdD WITH SHORT STROKE OVERLAYbSMALL LETTER D WITH SHORT STROKE OVERLAYbCAPITA
L LETTER S WITH SHORT STROKE OVERLAYbSMALL LETTER S WITH SHORT STROKE OVERLAY@A7D0bCAPITAL LETT
ER CLOSED INSULAR GbSMALL LETTER CLOSED INSULAR G@A7D3dDOUBLE THORN@A7D5eWYNNbCAPITAL LETTER MI
DDLE SCOTS SbSMALL LETTER MIDDLE SCOTS SbCAPITAL LETTER SIGMOID SbSMALL LETTER SIGMOID S@A7F2aM
ODIFIER LETTER CAPITAL CdFdQaLATIN CAPITAL LETTER REVERSED HALF HbSMALL LETTER REVERSED HALF Hb
EPIGRAPHIC LETTER SIDEWAYS IaMODIFIER LETTER CAPITAL H WITH STROKEcSMALL LIGATURE OEaLATIN LETT
ER SMALL CAPITAL TURNED MbEPIGRAPHIC LETTER REVERSED FePdINVERTED MdI LONGAdARCHAIC MaSYLOTI NA
GRI LETTER AdIcSIGN DVISVARAcLETTER UdEdOcSIGN HASANTAcLETTER KOdKHOdGOdGHOcSIGN ANUSVARAcLETTE
R COdCHOdJOdJHOdTTOdTTHOdDDOdDDHOdTOdTHOdDOdDHOdNOdPOdPHOdBOdBHOdMOdROdLOdRROdSOdHOcVOWEL SIG
N AeIeUeEeOOcPOETRY MARK-1dMARK-2dMARK-3dMARK-4cSIGN ALTERNATE HASANTA@A830aNORTH INDIC FRACTIO
N ONE QUARTEReHALFdTHREE QUARTERSdONE SIXTEENTHeEIGHTHdTHREE SIXTEENTHScQUARTER MARKcPLACEHOLDE
R MARKcRUPEE MARKcQUANTITY MARK@A840aPHAGS-PA LETTER KAcKHAcGAcNGAcCAcCHAcJAcNYAcTAcTHAcDAcNAcP
AcPHAcBAcMAcTSAcTSHAcDZAcWAcZHAcZAcSMALL AcYAcRAcLAcSHAcSAcHAcAcIcUcEcOcQAcXAcFAcGGAcEEbSUBJOIN
ED LETTER WAdYAbLETTER TTAcTTHAcDDAcNNAcALTERNATE YAcVOICELESS SHAcVOICED HAcASPIRATED FAbSUBJO
INED LETTER RAbSUPERFIXED LETTER RAbLETTER CANDRABINDUbSINGLE HEAD MARKbDOUBLE HEAD MARKbMARK S
HADcDOUBLE SHAD@A880aSAURASHTRA SIGN ANUSVARAcVISARGAbLETTER AcAAcIcIIcUcUUcVOCALIC RdRRdLdLLcE
cEEcAIcOcOOcAUcKAcKHAcGAcGHAcNGAcCAcCHAcJAcJHAcNYAcTTAcTTHAcDDAcDDHAcNNAcTAcTHAcDAcDHAcNAcPAcPH
AcBAcBHAcMAcYAcRAcLAcVAcSHAcSSAcSAcHAcLLAbCONSONANT SIGN HAARUbVOWEL SIGN AAdIdIIdUdUUdVOCALI
C ReRReLeLLdEdEEdAIdOdOOdAUbSIGN VIRAMAcCANDRABINDU@A8CEbDANDAbDOUBLE DANDAbDIGIT ZEROcONEcTWOc
THREEcFOURcFIVEcSIXcSEVENcEIGHTcNINE@A8E0aCOMBINING DEVANAGARI DIGIT ZEROdONEdTWOdTHREEdFOURdFI
VEdSIXdSEVENdEIGHTdNINEcLETTER AdUdKAdNAdPAdRAdVIcSIGN AVAGRAHAaDEVANAGARI SIGN SPACING CANDRAB
INDUcCANDRABINDU VIRAMAcDOUBLE CANDRABINDU VIRAMAcCANDRABINDU TWOdTHREEdAVAGRAHAcPUSHPIKAbGAP F
ILLERbCARETbHEADSTROKEbSIGN SIDDHAMbJAIN OMbLETTER AYbVOWEL SIGN AYaKAYAH LI DIGIT ZEROdONEdTWO
dTHREEdFOURdFIVEdSIXdSEVENdEIGHTdNINEcLETTER KAdKHAdGAdNGAdSAdSHAdZAdNYAdTAdHTAdNAdPAdPHAdMAdDA
dBAdRAdYAdLAdWAdTHAdHAdVAdCAdAdOEdIdOOcVOWEL UEdEdUdEEdOcTONE PLOPHUdCALYAePLOPHUcSIGN CWIdSHYA
aREJANG LETTER KAcGAcNGAcTAcDAcNAcPAcBAcMAcCAcJAcNYAcSAcRAcLAcYAcWAcHAcMBAcNGGAcNDAcNYJAcAbVOWE
L SIGN IdUdEdAIdOdAUdEUdEAbCONSONANT SIGN NGdNdRdHbVIRAMA@A95FbSECTION MARKaHANGUL CHOSEONG TIK
EUT-MIEUMcTIKEUT-PIEUPcTIKEUT-SIOScTIKEUT-CIEUCcRIEUL-KIYEOKcRIEUL-SSANGKIYEOKcRIEUL-TIKEUTcRIE
UL-SSANGTIKEUTcRIEUL-MIEUMcRIEUL-PIEUPcRIEUL-SSANGPIEUPcRIEUL-KAPYEOUNPIEUPcRIEUL-SIOScRIEUL-CI
EUCcRIEUL-KHIEUKHcMIEUM-KIYEOKcMIEUM-TIKEUTcMIEUM-SIOScPIEUP-SIOS-THIEUTHcPIEUP-KHIEUKHcPIEUP-H
IEUHcSSANGSIOS-PIEUPcIEUNG-RIEULcIEUNG-HIEUHcSSANGCIEUC-HIEUHcSSANGTHIEUTHcPHIEUPH-HIEUHcHIEUH-
SIOScSSANGYEORINHIEUH@A980aJAVANESE SIGN PANYANGGAcCECAKcLAYARcWIGNYANbLETTER AcI KAWIdcIIcUcP
A CEREKcNGA LELETeRASWADIcEcAIcOcKAdSASAKdMURDAcGAdMURDAcNGAcCAdMURDAcJAcNYA MURDAcJA MAHAPRANA
cNYAcTTAdMAHAPRANAcDDAdMAHAPRANAcNA MURDAcTAdMURDAcDAdMAHAPRANAcNAcPAdMURDAcBAdMURDAcMAcYAcRAdA
GUNGcLAcWAcSA MURDAdMAHAPRANAdcHAbSIGN CECAK TELUbVOWEL SIGN TARUNGdTOLONGdWULUeMELIKdSUKUeMEND
UTdTALINGdDIRGA MUREdPEPETbCONSONANT SIGN KERETdPENGKALdCAKRAbPANGKONbLEFT RERENGGANbRIGHT RERE
NGGANbPADA ANDAPcMADYAcLUHURcWINDUcPANGKATcLINGSAcLUNGSIcADEGdADEGcPISELEHbTURNED PADA PISELEH@
A9CFbPANGRANGKEPbDIGIT ZEROcONEcTWOcTHREEcFOURcFIVEcSIXcSEVENcEIGHTcNINE@A9DEbPADA TIRTA TUMETE
ScISEN-ISENaMYANMAR LETTER SHAN GHAdCHAdJHAdNNAdBHAbSIGN SHAN SAWbMODIFIER LETTER SHAN REDUPLIC
ATIONbLETTER TAI LAING NYAeFAeGAeGHAeJAeJHAeDDAeDDHAeNNAbTAI LAING DIGIT ZEROeONEeTWOeTHREEeFOU
ReFIVEeSIXeSEVENeEIGHTeNINEbLETTER TAI LAING LLAeDAeDHAeBAeBHA@AA00aCHAM LETTER AcIcUcEcAIcOcKA
cKHAcGAcGHAcNGUEcNGAcCHAcCHHAcJAcJHAcNHUEcNHAcNHJAcTAcTHAcDAcDHAcNUEcNAcDDAcPAcPPAcPHAcBAcBHAcM
UEcMAcBBAcYAcRAcLAcVAcSSAcSAcHAbVOWEL SIGN AAdIdIIdEIdUdOEdOdAIdAUdUEbCONSONANT SIGN YAdRAdLAdW
A@AA40bLETTER FINAL KdGdNGbCONSONANT SIGN FINAL NGbLETTER FINAL CHdTdNdPdYdRdLdSSbCONSONANT SIG
N FINAL MeH@AA50bDIGIT ZEROcONEcTWOcTHREEcFOURcFIVEcSIXcSEVENcEIGHTcNINE@AA5CbPUNCTUATION SPIRA
LcDANDAcDOUBLE DANDAcTRIPLE DANDAaMYANMAR LETTER KHAMTI GAdCAdCHAdJAdJHAdNYAdTTAdTTHAdDDAdDDHAd
DHAdNAdSAdHAdHHA@AA6EdLLAdFAbMODIFIER LETTER KHAMTI REDUPLICATIONbLETTER KHAMTI XAdZAdRAbLOGOGR
AM KHAMTI OAYdQNdHMbSYMBOL AITON EXCLAMATIONdONEdTWObLETTER AITON RAbSIGN PAO KAREN TONEcTAI LA
ING TONE-2eTONE-5bLETTER SHWE PALAUNG CHAeSHAaTAI VIET LETTER LOW KOdHIGH KOdLOW KHOdHIGH KHOdL
OW KHHOdHIGH KHHOdLOW GOdHIGH GOdLOW NGOdHIGH NGOdLOW COdHIGH COdLOW CHOdHIGH CHOdLOW SOdHIGH S
OdLOW NYOdHIGH NYOdLOW DOdHIGH DOdLOW TOdHIGH TOdLOW THOdHIGH THOdLOW NOdHIGH NOdLOW BOdHIGH BO
dLOW POdHIGH POdLOW PHOdHIGH PHOdLOW FOdHIGH FOdLOW MOdHIGH MOdLOW YOdHIGH YOdLOW ROdHIGH ROdLO
W LOdHIGH LOdLOW VOdHIGH VOdLOW HOdHIGH HOdLOW OdHIGH OcMAI KANGcVOWEL AAdIdUEdUdEdOcMAI KHITcV
OWEL IAdUEAdUAdAUEdAYdANdAMcTONE MAI EKeNUENGeTHOeSONG@AADBcSYMBOL KONdNUENGdSAMdHO HOIdKOI KOI
aMEETEI MAYEK LETTER EdOdCHAdNYAdTTAdTTHAdDDAdDDHAdNNAdSHAdSSAcVOWEL SIGN IIeUUeAAIeAUeAAUcCHEI
KHANcAHANG KHUDAMcANJIcSYLLABLE REPETITION MARKcWORD REPETITION MARKcVOWEL SIGN VISARGAcVIRAMA@
AB01aETHIOPIC SYLLABLE TTHUcTTHIcTTHAAcTTHEEcTTHEcTTHO@AB09cDDHUcDDHIcDDHAAcDDHEEcDDHEcDDHO@AB1
1cDZUcDZIcDZAAcDZEEcDZEcDZO@AB20cCCHHAcCCHHUcCCHHIcCCHHAAcCCHHEEcCCHHEcCCHHO@AB28cBBAcBBUcBBIcB
BAAcBBEEcBBEcBBO@AB30aLATIN SMALL LETTER BARRED ALPHAdA REVERSED-SCHWAdBLACKLETTER EdBARRED Ed
E WITH FLOURISHdLENIS FdSCRIPT G WITH CROSSED-TAILdL WITH INVERTED LAZY SfDOUBLE MIDDLE TILDEfM
IDDLE RINGdM WITH CROSSED-TAILdN WITH CROSSED-TAILdENG WITH CROSSED-TAILdBLACKLETTER OfWITH STR
OKEdOPEN O WITH STROKEdINVERTED OEdTURNED OE WITH STROKEgHORIZONTAL STROKEeO OPEN-OgWITH STROKE
dSTIRRUP RbLETTER SMALL CAPITAL R WITH RIGHT LEGbSMALL LETTER R WITHOUT HANDLEdDOUBLE RdR WIT
H CROSSED-TAILdDOUBLE R WITH CROSSED-TAILdSCRIPT RfWITH RINGdBASELINE ESHdU WITH SHORT RIGHT LE
GeBAR WITH SHORT RIGHT LEGdUIdTURNED UIdU WITH LEFT HOOKdCHIeWITH LOW RIGHT RINGgLEFT SERIFdX W
ITH LOW RIGHT RINGfLONG LEFT LEGiAND LOW RIGHT RINGiWITH SERIFdY WITH SHORT RIGHT LEGaMODIFIE
R BREVE WITH INVERTED BREVEbLETTER SMALL HENGdL WITH INVERTED LAZY SfMIDDLE TILDEdU WITH LEFT H
OOKaLATIN SMALL LETTER SAKHA YATdIOTIFIED EdOPEN OEdUOdINVERTED ALPHAaGREEK LETTER SMALL CAPITA
L OMEGAaLATIN SMALL LETTER DZ DIGRAPH WITH RETROFLEX HOOKdTS DIGRAPH WITH RETROFLEX HOOKdTURNE
D R WITH MIDDLE TILDEaMODIFIER LETTER SMALL TURNED WcLEFT TACKcRIGHT TACK@AB70aCHEROKEE SMALL L
ETTER AdEdIdOdUdVdGAdKAdGEdGIdGOdGUdGVdHAdHEdHIdHOdHUdHVdLAdLEdLIdLOdLUdLVdMAdMEdMIdMOdMUdNAdHN
AdNAHdNEdNIdNOdNUdNVdQUAdQUEdQUIdQUOdQUUdQUVdSAdSdSEdSIdSOdSUdSVdDAdTAdDEdTEdDIdTIdDOdDUdDVdDLA
dTLAdTLEdTLIdTLOdTLUdTLVdTSAdTSEdTSIdTSOdTSUdTSVdWAdWEdWIdWOdWUdWVdYAaMEETEI MAYEK LETTER KOKdS
AMdLAIdMITdPAdNAdCHILdTILdKHOUdNGOUdTHOUdWAIdYANGdHUKdUNdIdPHAMdATIYAdGOKdJHAMdRAIdBAdJILdDILdG
HOUdDHOUdBHAMdKOK LONSUMdLAI LONSUMdMIT LONSUMdPA LONSUMdNA LONSUMdTIL LONSUMdNGOU LONSUMdI LON
SUMcVOWEL SIGN ONAPeINAPeANAPeYENAPeSOUNAPeUNAPeCHEINAPeNUNGcCHEIKHEIcLUM IYEKcAPUN IYEK@ABF0cD
IGIT ZEROdONEdTWOdTHREEdFOURdFIVEdSIXdSEVENdEIGHTdNINE@D7B0aHANGUL JUNGSEONG O-YEOcO-O-IcYO-AcY
O-AEcYO-EOcU-YEOcU-I-IcYU-AEcYU-OcEU-AcEU-EOcEU-EcEU-OcI-YA-OcI-YAEcI-YEOcI-YEcI-O-IcI-YOcI-YUc
I-IcARAEA-AcARAEA-E@D7CBbJONGSEONG NIEUN-RIEULcNIEUN-CHIEUCHcSSANGTIKEUTcSSANGTIKEUT-PIEUPcTIKE
UT-PIEUPcTIKEUT-SIOScTIKEUT-SIOS-KIYEOKcTIKEUT-CIEUCcTIKEUT-CHIEUCHcTIKEUT-THIEUTHcRIEUL-SSANGK
IYEOKcRIEUL-KIYEOK-HIEUHcSSANGRIEUL-KHIEUKHcRIEUL-MIEUM-HIEUHcRIEUL-PIEUP-TIKEUTcRIEUL-PIEUP-PH
IEUPHcRIEUL-YESIEUNGcRIEUL-YEORINHIEUH-HIEUHcKAPYEOUNRIEULcMIEUM-NIEUNcMIEUM-SSANGNIEUNcSSANGMI
EUMcMIEUM-PIEUP-SIOScMIEUM-CIEUCcPIEUP-TIKEUTcPIEUP-RIEUL-PHIEUPHcPIEUP-MIEUMcSSANGPIEUPcPIEUP-
SIOS-TIKEUTcPIEUP-CIEUCcPIEUP-CHIEUCHcSIOS-MIEUMcSIOS-KAPYEOUNPIEUPcSSANGSIOS-KIYEOKcSSANGSIOS-
TIKEUTcSIOS-PANSIOScSIOS-CIEUCcSIOS-CHIEUCHcSIOS-THIEUTHcSIOS-HIEUHcPANSIOS-PIEUPcPANSIOS-KAPYE
OUNPIEUPcYESIEUNG-MIEUMcYESIEUNG-HIEUHcCIEUC-PIEUPcCIEUC-SSANGPIEUPcSSANGCIEUCcPHIEUPH-SIOScPHI
EUPH-THIEUTH@FB00aLATIN SMALL LIGATURE FFdFIdFLdFFIdFFLdLONG S TdST@FB13aARMENIAN SMALL LIGATUR
E MEN NOWeECHeINIdVEW NOWdMEN XEH@FB1DaHEBREW LETTER YOD WITH HIRIQbPOINT JUDEO-SPANISH VARIKAb
LIGATURE YIDDISH YOD YOD PATAHbLETTER ALTERNATIVE AYINcWIDE ALEFdDALETdHEdKAFdLAMEDdFINAL MEMdR
ESHdTAVcALTERNATIVE PLUS SIGNcSHIN WITH SHIN DOTeSIN DOTeDAGESH AND SHIN DOTgSIN DOTcALEF WIT
H PATAHeQAMATSeMAPIQcBET WITH DAGESHcGIMEL WITH DAGESHcDALET WITH DAGESHcHE WITH MAPIQcVAV WIT
H DAGESHcZAYIN WITH DAGESH@FB38cTET WITH DAGESHcYOD WITH DAGESHcFINAL KAF WITH DAGESHcKAF WIT
H DAGESHcLAMED WITH DAGESH@FB3EcMEM WITH DAGESH@FB40cNUN WITH DAGESHcSAMEKH WITH DAGESH@FB43cFI
NAL PE WITH DAGESHcPE WITH DAGESH@FB46cTSADI WITH DAGESHcQOF WITH DAGESHcRESH WITH DAGESHcSHI
N WITH DAGESHcTAV WITH DAGESHcVAV WITH HOLAMcBET WITH RAFEcKAF WITH RAFEcPE WITH RAFEbLIGATUR
E ALEF LAMEDaARABIC LETTER ALEF WASLA ISOLATED FORMeFINAL FORMcBEEH ISOLATED FORMdFINAL FORMdIN
ITIAL FORMdMEDIAL FORMcPEH ISOLATED FORMdFINAL FORMdINITIAL FORMdMEDIAL FORMcBEHEH ISOLATED FOR
MdFINAL FORMdINITIAL FORMdMEDIAL FORMcTTEHEH ISOLATED FORMdFINAL FORMdINITIAL FORMdMEDIAL FORMc
TEHEH ISOLATED FORMdFINAL FORMdINITIAL FORMdMEDIAL FORMcTTEH ISOLATED FORMdFINAL FORMdINITIAL F
ORMdMEDIAL FORMcVEH ISOLATED FORMdFINAL FORMdINITIAL FORMdMEDIAL FORMcPEHEH ISOLATED FORMdFINA
L FORMdINITIAL FORMdMEDIAL FORMcDYEH ISOLATED FORMdFINAL FORMdINITIAL FORMdMEDIAL FORMcNYEH ISO
LATED FORMdFINAL FORMdINITIAL FORMdMEDIAL FORMcTCHEH ISOLATED FORMdFINAL FORMdINITIAL FORMdMEDI
AL FORMcTCHEHEH ISOLATED FORMdFINAL FORMdINITIAL FORMdMEDIAL FORMcDDAHAL ISOLATED FORMdFINAL FO
RMcDAHAL ISOLATED FORMdFINAL FORMcDUL ISOLATED FORMdFINAL FORMcDDAL ISOLATED FORMdFINAL FORMcJE
H ISOLATED FORMdFINAL FORMcRREH ISOLATED FORMdFINAL FORMcKEHEH ISOLATED FORMdFINAL FORMdINITIA
L FORMdMEDIAL FORMcGAF ISOLATED FORMdFINAL FORMdINITIAL FORMdMEDIAL FORMcGUEH ISOLATED FORMdFIN
AL FORMdINITIAL FORMdMEDIAL FORMcNGOEH ISOLATED FORMdFINAL FORMdINITIAL FORMdMEDIAL FORMcNOON G
HUNNA ISOLATED FORMeFINAL FORMcRNOON ISOLATED FORMdFINAL FORMdINITIAL FORMdMEDIAL FORMcHEH WIT
H YEH ABOVE ISOLATED FORMgFINAL FORMdGOAL ISOLATED FORMeFINAL FORMeINITIAL FORMeMEDIAL FORMdDOA
CHASHMEE ISOLATED FORMeFINAL FORMeINITIAL FORMeMEDIAL FORMcYEH BARREE ISOLATED FORMeFINAL FORMe
WITH HAMZA ABOVE ISOLATED FORMhFINAL FORMbSYMBOL DOT ABOVEdBELOWcTWO DOTS ABOVEeBELOWcTHREE DOT
S ABOVEeBELOWePOINTING DOWNWARDS ABOVEgBELOWcFOUR DOTS ABOVEeBELOWcDOUBLE VERTICAL BAR BELOWcTW
O DOTS VERTICALLY ABOVEfBELOWcRINGcSMALL TAH ABOVEeBELOWcWASLA ABOVE@FBD3bLETTER NG ISOLATED FO
RMdFINAL FORMdINITIAL FORMdMEDIAL FORMcU ISOLATED FORMdFINAL FORMcOE ISOLATED FORMdFINAL FORMcY
U ISOLATED FORMdFINAL FORMcU WITH HAMZA ABOVE ISOLATED FORMcVE ISOLATED FORMdFINAL FORMcKIRGHI
Z OE ISOLATED FORMeFINAL FORMdYU ISOLATED FORMeFINAL FORMcE ISOLATED FORMdFINAL FORMdINITIAL FO
RMdMEDIAL FORMcUIGHUR KAZAKH KIRGHIZ ALEF MAKSURA INITIAL FORMhMEDIAL FORMbLIGATURE YEH WITH HA
MZA ABOVE WITH ALEF ISOLATED FORMiFINAL FORMhAE ISOLATED FORMiFINAL FORMhWAW ISOLATED FORMiFINA
L FORMhU ISOLATED FORMiFINAL FORMhOE ISOLATED FORMiFINAL FORMhYU ISOLATED FORMiFINAL FORMhE ISO
LATED FORMiFINAL FORMiINITIAL FORMcUIGHUR KIRGHIZ YEH WITH HAMZA ABOVE WITH ALEF MAKSURA ISOLAT
ED FORMlFINAL FORMlINITIAL FORMbLETTER FARSI YEH ISOLATED FORMeFINAL FORMeINITIAL FORMeMEDIAL F
ORMbLIGATURE YEH WITH HAMZA ABOVE WITH JEEM ISOLATED FORMhHAH ISOLATED FORMhMEEM ISOLATED FORMh
ALEF MAKSURA ISOLATED FORMhYEH ISOLATED FORMcBEH WITH JEEM ISOLATED FORMeHAH ISOLATED FORMeKHA
H ISOLATED FORMeMEEM ISOLATED FORMeALEF MAKSURA ISOLATED FORMeYEH ISOLATED FORMcTEH WITH JEEM I
SOLATED FORMeHAH ISOLATED FORMeKHAH ISOLATED FORMeMEEM ISOLATED FORMeALEF MAKSURA ISOLATED FORM
eYEH ISOLATED FORMcTHEH WITH JEEM ISOLATED FORMeMEEM ISOLATED FORMeALEF MAKSURA ISOLATED FORMeY
EH ISOLATED FORMcJEEM WITH HAH ISOLATED FORMeMEEM ISOLATED FORMcHAH WITH JEEM ISOLATED FORMeMEE
M ISOLATED FORMcKHAH WITH JEEM ISOLATED FORMeHAH ISOLATED FORMeMEEM ISOLATED FORMcSEEN WITH JEE
M ISOLATED FORMeHAH ISOLATED FORMeKHAH ISOLATED FORMeMEEM ISOLATED FORMcSAD WITH HAH ISOLATED F
ORMeMEEM ISOLATED FORMcDAD WITH JEEM ISOLATED FORMeHAH ISOLATED FORMeKHAH ISOLATED FORMeMEEM IS
OLATED FORMcTAH WITH HAH ISOLATED FORMeMEEM ISOLATED FORMcZAH WITH MEEM ISOLATED FORMcAIN WIT
H JEEM ISOLATED FORMeMEEM ISOLATED FORMcGHAIN WITH JEEM ISOLATED FORMeMEEM ISOLATED FORMcFEH WI
TH JEEM ISOLATED FORMeHAH ISOLATED FORMeKHAH ISOLATED FORMeMEEM ISOLATED FORMeALEF MAKSURA ISOL
ATED FORMeYEH ISOLATED FORMcQAF WITH HAH ISOLATED FORMeMEEM ISOLATED FORMeALEF MAKSURA ISOLATE
D FORMeYEH ISOLATED FORMcKAF WITH ALEF ISOLATED FORMeJEEM ISOLATED FORMeHAH ISOLATED FORMeKHA
H ISOLATED FORMeLAM ISOLATED FORMeMEEM ISOLATED FORMeALEF MAKSURA ISOLATED FORMeYEH ISOLATED FO
RMcLAM WITH JEEM ISOLATED FORMeHAH ISOLATED FORMeKHAH ISOLATED FORMeMEEM ISOLATED FORMeALEF MAK
SURA ISOLATED FORMeYEH ISOLATED FORMcMEEM WITH JEEM ISOLATED FORMeHAH ISOLATED FORMeKHAH ISOLAT
ED FORMeMEEM ISOLATED FORMeALEF MAKSURA ISOLATED FORMeYEH ISOLATED FORMcNOON WITH JEEM ISOLATE
D FORMeHAH ISOLATED FORMeKHAH ISOLATED FORMeMEEM ISOLATED FORMeALEF MAKSURA ISOLATED FORMeYEH I
SOLATED FORMcHEH WITH JEEM ISOLATED FORMeMEEM ISOLATED FORMeALEF MAKSURA ISOLATED FORMeYEH ISOL
ATED FORMcYEH WITH JEEM ISOLATED FORMeHAH ISOLATED FORMeKHAH ISOLATED FORMeMEEM ISOLATED FORMeA
LEF MAKSURA ISOLATED FORMeYEH ISOLATED FORMcTHAL WITH SUPERSCRIPT ALEF ISOLATED FORMcREH WITH S
UPERSCRIPT ALEF ISOLATED FORMcALEF MAKSURA WITH SUPERSCRIPT ALEF ISOLATED FORMcSHADDA WITH DAMM
ATAN ISOLATED FORMeKASRATAN ISOLATED FORMeFATHA ISOLATED FORMeDAMMA ISOLATED FORMeKASRA ISOLATE
D FORMeSUPERSCRIPT ALEF ISOLATED FORMcYEH WITH HAMZA ABOVE WITH REH FINAL FORMhZAIN FINAL FORMh
MEEM FINAL FORMhNOON FINAL FORMhALEF MAKSURA FINAL FORMhYEH FINAL FORMcBEH WITH REH FINAL FORMe
ZAIN FINAL FORMeMEEM FINAL FORMeNOON FINAL FORMeALEF MAKSURA FINAL FORMeYEH FINAL FORMcTEH WIT
H REH FINAL FORMeZAIN FINAL FORMeMEEM FINAL FORMeNOON FINAL FORMeALEF MAKSURA FINAL FORMeYEH FI
NAL FORMcTHEH WITH REH FINAL FORMeZAIN FINAL FORMeMEEM FINAL FORMeNOON FINAL FORMeALEF MAKSUR
A FINAL FORMeYEH FINAL FORMcFEH WITH ALEF MAKSURA FINAL FORMeYEH FINAL FORMcQAF WITH ALEF MAKSU
RA FINAL FORMeYEH FINAL FORMcKAF WITH ALEF FINAL FORMeLAM FINAL FORMeMEEM FINAL FORMeALEF MAKSU
RA FINAL FORMeYEH FINAL FORMcLAM WITH MEEM FINAL FORMeALEF MAKSURA FINAL FORMeYEH FINAL FORMcME
EM WITH ALEF FINAL FORMeMEEM FINAL FORMcNOON WITH REH FINAL FORMeZAIN FINAL FORMeMEEM FINAL FOR
MeNOON FINAL FORMeALEF MAKSURA FINAL FORMeYEH FINAL FORMcALEF MAKSURA WITH SUPERSCRIPT ALEF FIN
AL FORMcYEH WITH REH FINAL FORMeZAIN FINAL FORMeMEEM FINAL FORMeNOON FINAL FORMeALEF MAKSURA FI
NAL FORMeYEH FINAL FORMeHAMZA ABOVE WITH JEEM INITIAL FORMhHAH INITIAL FORMhKHAH INITIAL FORMhM
EEM INITIAL FORMhHEH INITIAL FORMcBEH WITH JEEM INITIAL FORMeHAH INITIAL FORMeKHAH INITIAL FORM
eMEEM INITIAL FORMeHEH INITIAL FORMcTEH WITH JEEM INITIAL FORMeHAH INITIAL FORMeKHAH INITIAL FO
RMeMEEM INITIAL FORMeHEH INITIAL FORMcTHEH WITH MEEM INITIAL FORMcJEEM WITH HAH INITIAL FORMeME
EM INITIAL FORMcHAH WITH JEEM INITIAL FORMeMEEM INITIAL FORMcKHAH WITH JEEM INITIAL FORMeMEEM I
NITIAL FORMcSEEN WITH JEEM INITIAL FORMeHAH INITIAL FORMeKHAH INITIAL FORMeMEEM INITIAL FORMcSA
D WITH HAH INITIAL FORMeKHAH INITIAL FORMeMEEM INITIAL FORMcDAD WITH JEEM INITIAL FORMeHAH INIT
IAL FORMeKHAH INITIAL FORMeMEEM INITIAL FORMcTAH WITH HAH INITIAL FORMcZAH WITH MEEM INITIAL FO
RMcAIN WITH JEEM INITIAL FORMeMEEM INITIAL FORMcGHAIN WITH JEEM INITIAL FORMeMEEM INITIAL FORMc
FEH WITH JEEM INITIAL FORMeHAH INITIAL FORMeKHAH INITIAL FORMeMEEM INITIAL FORMcQAF WITH HAH IN
ITIAL FORMeMEEM INITIAL FORMcKAF WITH JEEM INITIAL FORMeHAH INITIAL FORMeKHAH INITIAL FORMeLA
M INITIAL FORMeMEEM INITIAL FORMcLAM WITH JEEM INITIAL FORMeHAH INITIAL FORMeKHAH INITIAL FORMe
MEEM INITIAL FORMeHEH INITIAL FORMcMEEM WITH JEEM INITIAL FORMeHAH INITIAL FORMeKHAH INITIAL FO
RMeMEEM INITIAL FORMcNOON WITH JEEM INITIAL FORMeHAH INITIAL FORMeKHAH INITIAL FORMeMEEM INITIA
L FORMeHEH INITIAL FORMcHEH WITH JEEM INITIAL FORMeMEEM INITIAL FORMeSUPERSCRIPT ALEF INITIAL F
ORMcYEH WITH JEEM INITIAL FORMeHAH INITIAL FORMeKHAH INITIAL FORMeMEEM INITIAL FORMeHEH INITIA
L FORMeHAMZA ABOVE WITH MEEM MEDIAL FORMhHEH MEDIAL FORMcBEH WITH MEEM MEDIAL FORMeHEH MEDIAL F
ORMcTEH WITH MEEM MEDIAL FORMeHEH MEDIAL FORMcTHEH WITH MEEM MEDIAL FORMeHEH MEDIAL FORMcSEEN W
ITH MEEM MEDIAL FORMeHEH MEDIAL FORMcSHEEN WITH MEEM MEDIAL FORMeHEH MEDIAL FORMcKAF WITH LAM M
EDIAL FORMeMEEM MEDIAL FORMcLAM WITH MEEM MEDIAL FORMcNOON WITH MEEM MEDIAL FORMeHEH MEDIAL FOR
McYEH WITH MEEM MEDIAL FORMeHEH MEDIAL FORMcSHADDA WITH FATHA MEDIAL FORMeDAMMA MEDIAL FORMeKAS
RA MEDIAL FORMcTAH WITH ALEF MAKSURA ISOLATED FORMeYEH ISOLATED FORMcAIN WITH ALEF MAKSURA ISOL
ATED FORMeYEH ISOLATED FORMcGHAIN WITH ALEF MAKSURA ISOLATED FORMeYEH ISOLATED FORMcSEEN WITH A
LEF MAKSURA ISOLATED FORMeYEH ISOLATED FORMcSHEEN WITH ALEF MAKSURA ISOLATED FORMeYEH ISOLATE
D FORMcHAH WITH ALEF MAKSURA ISOLATED FORMeYEH ISOLATED FORMcJEEM WITH ALEF MAKSURA ISOLATED FO
RMeYEH ISOLATED FORMcKHAH WITH ALEF MAKSURA ISOLATED FORMeYEH ISOLATED FORMcSAD WITH ALEF MAKSU
RA ISOLATED FORMeYEH ISOLATED FORMcDAD WITH ALEF MAKSURA ISOLATED FORMeYEH ISOLATED FORMcSHEE
N WITH JEEM ISOLATED FORMeHAH ISOLATED FORMeKHAH ISOLATED FORMeMEEM ISOLATED FORMeREH ISOLATE
D FORMcSEEN WITH REH ISOLATED FORMcSAD WITH REH ISOLATED FORMcDAD WITH REH ISOLATED FORMcTAH WI
TH ALEF MAKSURA FINAL FORMeYEH FINAL FORMcAIN WITH ALEF MAKSURA FINAL FORMeYEH FINAL FORMcGHAI
N WITH ALEF MAKSURA FINAL FORMeYEH FINAL FORMcSEEN WITH ALEF MAKSURA FINAL FORMeYEH FINAL FORMc
SHEEN WITH ALEF MAKSURA FINAL FORMeYEH FINAL FORMcHAH WITH ALEF MAKSURA FINAL FORMeYEH FINAL FO
RMcJEEM WITH ALEF MAKSURA FINAL FORMeYEH FINAL FORMcKHAH WITH ALEF MAKSURA FINAL FORMeYEH FINA
L FORMcSAD WITH ALEF MAKSURA FINAL FORMeYEH FINAL FORMcDAD WITH ALEF MAKSURA FINAL FORMeYEH FIN
AL FORMcSHEEN WITH JEEM FINAL FORMeHAH FINAL FORMeKHAH FINAL FORMeMEEM FINAL FORMeREH FINAL FOR
McSEEN WITH REH FINAL FORMcSAD WITH REH FINAL FORMcDAD WITH REH FINAL FORMcSHEEN WITH JEEM INIT
IAL FORMeHAH INITIAL FORMeKHAH INITIAL FORMeMEEM INITIAL FORMcSEEN WITH HEH INITIAL FORMcSHEE
N WITH HEH INITIAL FORMcTAH WITH MEEM INITIAL FORMcSEEN WITH JEEM MEDIAL FORMeHAH MEDIAL FORMeK
HAH MEDIAL FORMcSHEEN WITH JEEM MEDIAL FORMeHAH MEDIAL FORMeKHAH MEDIAL FORMcTAH WITH MEEM MEDI
AL FORMcZAH WITH MEEM MEDIAL FORMcALEF WITH FATHATAN FINAL FORMfISOLATED FORMaORNATE LEFT PAREN
THESISbRIGHT PARENTHESISaARABIC LIGATURE RAHIMAHU ALLAAHcRADI ALLAAHU ANHeANHAAeANHUMeANHUMAAeA
NHUNNAcSALLALLAAHU ALAYHI WA-AALIHcALAYHI AS-SALAAMcALAYHIM AS-SALAAMcALAYHIMAA AS-SALAAMcALAYH
I AS-SALAATU WAS-SALAAMcQUDDISA SIRRAHcSALLALLAHU ALAYHI WAAALIHEE WA-SALLAMcALAYHAA AS-SALAAMc
TABAARAKA WA-TAAALAAcRAHIMAHUM ALLAAHcTEH WITH JEEM WITH MEEM INITIAL FORMeHAH WITH JEEM FINA
L FORMhINITIAL FORMgMEEM INITIAL FORMeKHAH WITH MEEM INITIAL FORMeMEEM WITH JEEM INITIAL FORMgH
AH INITIAL FORMgKHAH INITIAL FORMcJEEM WITH MEEM WITH HAH FINAL FORMhINITIAL FORMcHAH WITH MEE
M WITH YEH FINAL FORMgALEF MAKSURA FINAL FORMcSEEN WITH HAH WITH JEEM INITIAL FORMeJEEM WITH HA
H INITIAL FORMgALEF MAKSURA FINAL FORMeMEEM WITH HAH FINAL FORMhINITIAL FORMgJEEM INITIAL FORMg
MEEM FINAL FORMhINITIAL FORMcSAD WITH HAH WITH HAH FINAL FORMhINITIAL FORMeMEEM WITH MEEM FINA
L FORMcSHEEN WITH HAH WITH MEEM FINAL FORMhINITIAL FORMeJEEM WITH YEH FINAL FORMeMEEM WITH KHA
H FINAL FORMhINITIAL FORMgMEEM FINAL FORMhINITIAL FORMcDAD WITH HAH WITH ALEF MAKSURA FINAL FOR
MeKHAH WITH MEEM FINAL FORMhINITIAL FORMcTAH WITH MEEM WITH HAH FINAL FORMhINITIAL FORMgMEEM IN
ITIAL FORMgYEH FINAL FORMcAIN WITH JEEM WITH MEEM FINAL FORMeMEEM WITH MEEM FINAL FORMhINITIA
L FORMgALEF MAKSURA FINAL FORMcGHAIN WITH MEEM WITH MEEM FINAL FORMgYEH FINAL FORMgALEF MAKSUR
A FINAL FORMcFEH WITH KHAH WITH MEEM FINAL FORMhINITIAL FORMcQAF WITH MEEM WITH HAH FINAL FORMg
MEEM FINAL FORMcLAM WITH HAH WITH MEEM FINAL FORMgYEH FINAL FORMgALEF MAKSURA FINAL FORMeJEEM W
ITH JEEM INITIAL FORMhFINAL FORMeKHAH WITH MEEM FINAL FORMhINITIAL FORMeMEEM WITH HAH FINAL FOR
MhINITIAL FORMcMEEM WITH HAH WITH JEEM INITIAL FORMgMEEM INITIAL FORMgYEH FINAL FORMeJEEM WIT
H HAH INITIAL FORMgMEEM INITIAL FORMeKHAH WITH JEEM INITIAL FORMgMEEM INITIAL FORM@FD92eJEEM WI
TH KHAH INITIAL FORMcHEH WITH MEEM WITH JEEM INITIAL FORMgMEEM INITIAL FORMcNOON WITH HAH WIT
H MEEM INITIAL FORMgALEF MAKSURA FINAL FORMeJEEM WITH MEEM FINAL FORMhINITIAL FORMgALEF MAKSUR
A FINAL FORMeMEEM WITH YEH FINAL FORMgALEF MAKSURA FINAL FORMcYEH WITH MEEM WITH MEEM FINAL FOR
MhINITIAL FORMcBEH WITH KHAH WITH YEH FINAL FORMcTEH WITH JEEM WITH YEH FINAL FORMgALEF MAKSUR
A FINAL FORMeKHAH WITH YEH FINAL FORMgALEF MAKSURA FINAL FORMeMEEM WITH YEH FINAL FORMgALEF MAK
SURA FINAL FORMcJEEM WITH MEEM WITH YEH FINAL FORMeHAH WITH ALEF MAKSURA FINAL FORMeMEEM WITH A
LEF MAKSURA FINAL FORMcSEEN WITH KHAH WITH ALEF MAKSURA FINAL FORMcSAD WITH HAH WITH YEH FINA
L FORMcSHEEN WITH HAH WITH YEH FINAL FORMcDAD WITH HAH WITH YEH FINAL FORMcLAM WITH JEEM WITH Y
EH FINAL FORMeMEEM WITH YEH FINAL FORMcYEH WITH HAH WITH YEH FINAL FORMeJEEM WITH YEH FINAL FOR
MeMEEM WITH YEH FINAL FORMcMEEM WITH MEEM WITH YEH FINAL FORMcQAF WITH MEEM WITH YEH FINAL FORM
cNOON WITH HAH WITH YEH FINAL FORMcQAF WITH MEEM WITH HAH INITIAL FORMcLAM WITH HAH WITH MEEM I
NITIAL FORMcAIN WITH MEEM WITH YEH FINAL FORMcKAF WITH MEEM WITH YEH FINAL FORMcNOON WITH JEE
M WITH HAH INITIAL FORMcMEEM WITH KHAH WITH YEH FINAL FORMcLAM WITH JEEM WITH MEEM INITIAL FORM
cKAF WITH MEEM WITH MEEM FINAL FORMcLAM WITH JEEM WITH MEEM FINAL FORMcNOON WITH JEEM WITH HA
H FINAL FORMcJEEM WITH HAH WITH YEH FINAL FORMcHAH WITH JEEM WITH YEH FINAL FORMcMEEM WITH JEE
M WITH YEH FINAL FORMcFEH WITH MEEM WITH YEH FINAL FORMcBEH WITH HAH WITH YEH FINAL FORMcKAF WI
TH MEEM WITH MEEM INITIAL FORMcAIN WITH JEEM WITH MEEM INITIAL FORMcSAD WITH MEEM WITH MEEM INI
TIAL FORMcSEEN WITH KHAH WITH YEH FINAL FORMcNOON WITH JEEM WITH YEH FINAL FORM@FDCFcSALAAMUH
U ALAYNAA@FDF0cSALLA USED AS KORANIC STOP SIGN ISOLATED FORMcQALA USED AS KORANIC STOP SIGN ISO
LATED FORMcALLAH ISOLATED FORMcAKBAR ISOLATED FORMcMOHAMMAD ISOLATED FORMcSALAM ISOLATED FORMcR
ASOUL ISOLATED FORMcALAYHE ISOLATED FORMcWASALLAM ISOLATED FORMcSALLA ISOLATED FORMcSALLALLAHO
U ALAYHE WASALLAMcJALLAJALALOUHOUaRIAL SIGNaARABIC LIGATURE BISMILLAH AR-RAHMAN AR-RAHEEMcSUBHA
ANAHU WA TAAALAAcAZZA WA JALLaVARIATION SELECTOR-1@FE00aVS1aVARIATION SELECTOR-2@FE01aVS2aVARIA
TION SELECTOR-3@FE02aVS3aVARIATION SELECTOR-4@FE03aVS4aVARIATION SELECTOR-5@FE04aVS5aVARIATIO
N SELECTOR-6@FE05aVS6aVARIATION SELECTOR-7@FE06aVS7aVARIATION SELECTOR-8@FE07aVS8aVARIATION SEL
ECTOR-9@FE08aVS9aVARIATION SELECTOR-10@FE09aVS10aVARIATION SELECTOR-11@FE0AaVS11aVARIATION SELE
CTOR-12@FE0BaVS12aVARIATION SELECTOR-13@FE0CaVS13aVARIATION SELECTOR-14@FE0DaVS14aVARIATION SEL
ECTOR-15@FE0EaVS15aVARIATION SELECTOR-16@FE0FaVS16aPRESENTATION FORM FOR VERTICAL COMMAeIDEOGRA
PHIC COMMAfFULL STOPeCOLONeSEMICOLONeEXCLAMATION MARKeQUESTION MARKeLEFT WHITE LENTICULAR BRACK
ETeRIGHT WHITE LENTICULAR BRAKCET@FE18hBRACKETeHORIZONTAL ELLIPSIS@FE20aCOMBINING LIGATURE LEF
T HALFcRIGHT HALFbDOUBLE TILDE LEFT HALFdRIGHT HALFbMACRON LEFT HALFcRIGHT HALFbCONJOINING MACR
ONbLIGATURE LEFT HALF BELOWcRIGHT HALF BELOWbTILDE LEFT HALF BELOWcRIGHT HALF BELOWbMACRON LEF
T HALF BELOWcRIGHT HALF BELOWbCONJOINING MACRON BELOWbCYRILLIC TITLO LEFT HALFdRIGHT HALFaPRESE
NTATION FORM FOR VERTICAL TWO DOT LEADEReEM DASHeEN DASHeLOW LINEeWAVY LOW LINEeLEFT PARENTHESI
SeRIGHT PARENTHESISeLEFT CURLY BRACKETeRIGHT CURLY BRACKETeLEFT TORTOISE SHELL BRACKETeRIGHT TO
RTOISE SHELL BRACKETeLEFT BLACK LENTICULAR BRACKETeRIGHT BLACK LENTICULAR BRACKETeLEFT DOUBLE A
NGLE BRACKETeRIGHT DOUBLE ANGLE BRACKETeLEFT ANGLE BRACKETeRIGHT ANGLE BRACKETeLEFT CORNER BRAC
KETeRIGHT CORNER BRACKETeLEFT WHITE CORNER BRACKETeRIGHT WHITE CORNER BRACKETaSESAME DOTaWHIT
E SESAME DOTaPRESENTATION FORM FOR VERTICAL LEFT SQUARE BRACKETeRIGHT SQUARE BRACKETaDASHED OVE
RLINEaCENTRELINE OVERLINEaWAVY OVERLINEaDOUBLE WAVY OVERLINEaDASHED LOW LINEaCENTRELINE LOW LIN
EaWAVY LOW LINEaSMALL COMMAbIDEOGRAPHIC COMMAbFULL STOP@FE54bSEMICOLONbCOLONbQUESTION MARKbEXCL
AMATION MARKbEM DASHbLEFT PARENTHESISbRIGHT PARENTHESISbLEFT CURLY BRACKETbRIGHT CURLY BRACKETb
LEFT TORTOISE SHELL BRACKETbRIGHT TORTOISE SHELL BRACKETbNUMBER SIGNbAMPERSANDbASTERISKbPLUS SI
GNbHYPHEN-MINUSbLESS-THAN SIGNbGREATER-THAN SIGNbEQUALS SIGN@FE68bREVERSE SOLIDUSbDOLLAR SIGNbP
ERCENT SIGNbCOMMERCIAL AT@FE70aARABIC FATHATAN ISOLATED FORMbTATWEEL WITH FATHATAN ABOVEbDAMMAT
AN ISOLATED FORMbTAIL FRAGMENTbKASRATAN ISOLATED FORM@FE76bFATHA ISOLATED FORMcMEDIAL FORMbDAMM
A ISOLATED FORMcMEDIAL FORMbKASRA ISOLATED FORMcMEDIAL FORMbSHADDA ISOLATED FORMcMEDIAL FORMbSU
KUN ISOLATED FORMcMEDIAL FORMbLETTER HAMZA ISOLATED FORMcALEF WITH MADDA ABOVE ISOLATED FORMgFI
NAL FORMeHAMZA ABOVE ISOLATED FORMgFINAL FORMcWAW WITH HAMZA ABOVE ISOLATED FORMgFINAL FORMcALE
F WITH HAMZA BELOW ISOLATED FORMgFINAL FORMcYEH WITH HAMZA ABOVE ISOLATED FORMgFINAL FORMgINITI
AL FORMgMEDIAL FORMcALEF ISOLATED FORMdFINAL FORMcBEH ISOLATED FORMdFINAL FORMdINITIAL FORMdMED
IAL FORMcTEH MARBUTA ISOLATED FORMeFINAL FORMdISOLATED FORMdFINAL FORMdINITIAL FORMdMEDIAL FORM
cTHEH ISOLATED FORMdFINAL FORMdINITIAL FORMdMEDIAL FORMcJEEM ISOLATED FORMdFINAL FORMdINITIAL F
ORMdMEDIAL FORMcHAH ISOLATED FORMdFINAL FORMdINITIAL FORMdMEDIAL FORMcKHAH ISOLATED FORMdFINA
L FORMdINITIAL FORMdMEDIAL FORMcDAL ISOLATED FORMdFINAL FORMcTHAL ISOLATED FORMdFINAL FORMcRE
H ISOLATED FORMdFINAL FORMcZAIN ISOLATED FORMdFINAL FORMcSEEN ISOLATED FORMdFINAL FORMdINITIA
L FORMdMEDIAL FORMcSHEEN ISOLATED FORMdFINAL FORMdINITIAL FORMdMEDIAL FORMcSAD ISOLATED FORMdFI
NAL FORMdINITIAL FORMdMEDIAL FORMcDAD ISOLATED FORMdFINAL FORMdINITIAL FORMdMEDIAL FORMcTAH ISO
LATED FORMdFINAL FORMdINITIAL FORMdMEDIAL FORMcZAH ISOLATED FORMdFINAL FORMdINITIAL FORMdMEDIA
L FORMcAIN ISOLATED FORMdFINAL FORMdINITIAL FORMdMEDIAL FORMcGHAIN ISOLATED FORMdFINAL FORMdINI
TIAL FORMdMEDIAL FORMcFEH ISOLATED FORMdFINAL FORMdINITIAL FORMdMEDIAL FORMcQAF ISOLATED FORMdF
INAL FORMdINITIAL FORMdMEDIAL FORMcKAF ISOLATED FORMdFINAL FORMdINITIAL FORMdMEDIAL FORMcLAM IS
OLATED FORMdFINAL FORMdINITIAL FORMdMEDIAL FORMcMEEM ISOLATED FORMdFINAL FORMdINITIAL FORMdMEDI
AL FORMcNOON ISOLATED FORMdFINAL FORMdINITIAL FORMdMEDIAL FORMcHEH ISOLATED FORMdFINAL FORMdINI
TIAL FORMdMEDIAL FORMcWAW ISOLATED FORMdFINAL FORMcALEF MAKSURA ISOLATED FORMeFINAL FORMcYEH IS
OLATED FORMdFINAL FORMdINITIAL FORMdMEDIAL FORMbLIGATURE LAM WITH ALEF WITH MADDA ABOVE ISOLATE
D FORMiFINAL FORMgHAMZA ABOVE ISOLATED FORMiFINAL FORMhBELOW ISOLATED FORMiFINAL FORMfISOLATE
D FORMfFINAL FORM@FEFFaZERO WIDTH NO-BREAK SPACE@FEFFaBYTE ORDER MARK@FEFFaBOM@FEFFaZWNBSP@FF01
aFULLWIDTH EXCLAMATION MARKbQUOTATION MARKbNUMBER SIGNbDOLLAR SIGNbPERCENT SIGNbAMPERSANDbAPOST
ROPHEbLEFT PARENTHESISbRIGHT PARENTHESISbASTERISKbPLUS SIGNbCOMMAbHYPHEN-MINUSbFULL STOPbSOLIDU
SbDIGIT ZEROcONEcTWOcTHREEcFOURcFIVEcSIXcSEVENcEIGHTcNINEbCOLONbSEMICOLONbLESS-THAN SIGNbEQUAL
S SIGNbGREATER-THAN SIGNbQUESTION MARKbCOMMERCIAL ATbLATIN CAPITAL LETTER AeBeCeDeEeFeGeHeIeJeK
eLeMeNeOePeQeReSeTeUeVeWeXeYeZbLEFT SQUARE BRACKETbREVERSE SOLIDUSbRIGHT SQUARE BRACKETbCIRCUMF
LEX ACCENTbLOW LINEbGRAVE ACCENTbLATIN SMALL LETTER AeBeCeDeEeFeGeHeIeJeKeLeMeNeOePeQeReSeTeUeV
eWeXeYeZbLEFT CURLY BRACKETbVERTICAL LINEbRIGHT CURLY BRACKETbTILDEbLEFT WHITE PARENTHESISbRIGH
T WHITE PARENTHESISaHALFWIDTH IDEOGRAPHIC FULL STOPbLEFT CORNER BRACKETbRIGHT CORNER BRACKETbID
EOGRAPHIC COMMAbKATAKANA MIDDLE DOTcLETTER WOdSMALL AeIeUeEeOeYAeYUeYOeTUbKATAKANA-HIRAGANA PRO
LONGED SOUND MARKbKATAKANA LETTER AdIdUdEdOdKAdKIdKUdKEdKOdSAdSIdSUdSEdSOdTAdTIdTUdTEdTOdNAdNId
NUdNEdNOdHAdHIdHUdHEdHOdMAdMIdMUdMEdMOdYAdYUdYOdRAdRIdRUdREdROdWAdNcVOICED SOUND MARKcSEMI-VOIC
ED SOUND MARKbHANGUL FILLERcLETTER KIYEOKdSSANGKIYEOKdKIYEOK-SIOSdNIEUNdNIEUN-CIEUCdNIEUN-HIEUH
dTIKEUTdSSANGTIKEUTdRIEULdRIEUL-KIYEOKdRIEUL-MIEUMdRIEUL-PIEUPdRIEUL-SIOSdRIEUL-THIEUTHdRIEUL-P
HIEUPHdRIEUL-HIEUHdMIEUMdPIEUPdSSANGPIEUPdPIEUP-SIOSdSIOSdSSANGSIOSdIEUNGdCIEUCdSSANGCIEUCdCHIE
UCHdKHIEUKHdTHIEUTHdPHIEUPHdHIEUH@FFC2dAdAEdYAdYAEdEOdE@FFCAdYEOdYEdOdWAdWAEdOE@FFD2dYOdUdWEOdW
EdWIdYU@FFDAdEUdYIdI@FFE0aFULLWIDTH CENT SIGNbPOUND SIGNbNOT SIGNbMACRONbBROKEN BARbYEN SIGNbWO
N SIGN@FFE8aHALFWIDTH FORMS LIGHT VERTICALbLEFTWARDS ARROWbUPWARDS ARROWbRIGHTWARDS ARROWbDOWNW
ARDS ARROWbBLACK SQUAREbWHITE CIRCLE@FFF9aINTERLINEAR ANNOTATION ANCHORcSEPARATORcTERMINATORaOB
JECT REPLACEMENT CHARACTERaREPLACEMENT CHARACTER@10000aLINEAR B SYLLABLE B008 AdB038 EdB028 IdB
061 OdB010 UdB001 DAdB045 DEdB007 DIdB014 DOdB051 DUdB057 JAdB046 JE@1000DdB036 JOdB065 JUdB07
7 KAdB044 KEdB067 KIdB070 KOdB081 KUdB080 MAdB013 MEdB073 MIdB015 MOdB023 MUdB006 NAdB024 NEdB0
30 NIdB052 NOdB055 NUdB003 PAdB072 PEdB039 PIdB011 POdB050 PUdB016 QAdB078 QEdB021 QIdB032 QO@1
0028dB060 RAdB027 REdB053 RIdB002 ROdB026 RUdB031 SAdB009 SEdB041 SIdB012 SOdB058 SUdB059 TAdB0
04 TEdB037 TIdB005 TOdB069 TUdB054 WAdB075 WEdB040 WIdB042 WO@1003CdB017 ZAdB074 ZE@1003FdB02
0 ZOdB025 A2dB043 A3dB085 AUdB071 DWEdB090 DWOdB048 NWAdB029 PU2dB062 PTEdB076 RA2dB033 RA3dB06
8 RO2dB066 TA2dB087 TWEdB091 TWO@10050cSYMBOL B018dB019dB022dB034dB047dB049dB056dB063dB064dB079
dB082dB083dB086dB089@10080cIDEOGRAM B100 MANdB102 WOMANdB104 DEERdB105 EQUIDdB105F MAREdB105M S
TALLIONdB106F EWEdB106M RAMdB107F SHE-GOATdB107M HE-GOATdB108F SOWdB108M BOARdB109F COWdB109M B
ULLdB120 WHEATdB121 BARLEYdB122 OLIVEdB123 SPICEdB125 CYPERUScMONOGRAM B127 KAPOdB128 KANAKOcID
EOGRAM B130 OILdB131 WINEdB132cMONOGRAM B133 AREPAdB135 MERIcIDEOGRAM B140 BRONZEdB141 GOLDdB14
2dB145 WOOLdB146dB150dB151 HORNdB152dB153dB154cMONOGRAM B156 TURO2cIDEOGRAM B157dB158dB159 CLOT
HdB160dB161dB162 GARMENTdB163 ARMOURdB164dB165dB166dB167dB168dB169dB170dB171dB172dB173 MONTHdB1
74dB176 TREEdB177dB178dB179dB180dB181dB182dB183dB184dB185dB189dB190dB191 HELMETdB220 FOOTSTOOLd
B225 BATHTUBdB230 SPEARdB231 ARROWdB232dB233 SWORDdB234dB236dB240 WHEELED CHARIOTdB241 CHARIOTd
B242 CHARIOT FRAMEdB243 WHEELdB245dB246cMONOGRAM B247 DIPTEcIDEOGRAM B248dB249dB251dB252dB253dB
254 DARTdB255dB256dB257dB258dB259dVESSEL B155eB200eB201eB202eB203eB204eB205eB206eB207eB208eB209
eB210eB211eB212eB213eB214eB215eB216eB217eB218eB219eB221eB222eB226eB227eB228eB229eB250eB305@1010
0aAEGEAN WORD SEPARATOR LINEdDOTbCHECK MARK@10107bNUMBER ONEcTWOcTHREEcFOURcFIVEcSIXcSEVENcEIGH
TcNINEcTENcTWENTYcTHIRTYcFORTYcFIFTYcSIXTYcSEVENTYcEIGHTYcNINETYcONE HUNDREDcTWO HUNDREDcTHRE
E HUNDREDcFOUR HUNDREDcFIVE HUNDREDcSIX HUNDREDcSEVEN HUNDREDcEIGHT HUNDREDcNINE HUNDREDcONE TH
OUSANDcTWO THOUSANDcTHREE THOUSANDcFOUR THOUSANDcFIVE THOUSANDcSIX THOUSANDcSEVEN THOUSANDcEIGH
T THOUSANDcNINE THOUSANDcTEN THOUSANDcTWENTY THOUSANDcTHIRTY THOUSANDcFORTY THOUSANDcFIFTY THOU
SANDcSIXTY THOUSANDcSEVENTY THOUSANDcEIGHTY THOUSANDcNINETY THOUSAND@10137bWEIGHT BASE UNITcFIR
ST SUBUNITcSECOND SUBUNITcTHIRD SUBUNITcFOURTH SUBUNITbDRY MEASURE FIRST SUBUNITbLIQUID MEASUR
E FIRST SUBUNITbMEASURE SECOND SUBUNITcTHIRD SUBUNITaGREEK ACROPHONIC ATTIC ONE QUARTEReHALFeDR
ACHMAdFIVEdFIFTYdFIVE HUNDREDeTHOUSANDdFIFTY THOUSANDdFIVE TALENTSdTEN TALENTSdFIFTY TALENTSdON
E HUNDRED TALENTSdFIVE HUNDRED TALENTSdONE THOUSAND TALENTSdFIVE THOUSAND TALENTSeSTATERSdTEN S
TATERSdFIFTY STATERSdONE HUNDRED STATERSdFIVE HUNDRED STATERSdONE THOUSAND STATERSdTEN THOUSAN
D STATERSdFIFTY THOUSAND STATERSdTEN MNAScHERAEUM ONE PLETHRONcTHESPIAN ONEcHERMIONIAN ONEcEPID
AUREAN TWOcTHESPIAN TWOcCYRENAIC TWO DRACHMAScEPIDAUREAN TWO DRACHMAScTROEZENIAN FIVEdTENeALTER
NATE FORMcHERMIONIAN TENcMESSENIAN TENcTHESPIAN TENdTHIRTYcTROEZENIAN FIFTYeALTERNATE FORMcHERM
IONIAN FIFTYcTHESPIAN FIFTYdONE HUNDREDdTHREE HUNDREDcEPIDAUREAN FIVE HUNDREDcTROEZENIAN FIVE H
UNDREDcTHESPIAN FIVE HUNDREDcCARYSTIAN FIVE HUNDREDcNAXIAN FIVE HUNDREDcTHESPIAN ONE THOUSANDdF
IVE THOUSANDcDELPHIC FIVE MNAScSTRATIAN FIFTY MNASbONE HALF SIGNeALTERNATE FORMbTWO THIRDS SIGN
bTHREE QUARTERS SIGNbYEAR SIGNbTALENT SIGNbDRACHMA SIGNbOBOL SIGNbTWO OBOLS SIGNbTHREE OBOLS SI
GNbFOUR OBOLS SIGNbFIVE OBOLS SIGNbMETRETES SIGNbKYATHOS BASE SIGNbLITRA SIGNbOUNKIA SIGNbXESTE
S SIGNbARTABE SIGNbAROURA SIGNbGRAMMA SIGNbTRYBLION BASE SIGNbZERO SIGNbONE QUARTER SIGNbSINUSO
ID SIGNbINDICTION SIGNaNOMISMA SIGN@10190aROMAN SEXTANS SIGNbUNCIA SIGNbSEMUNCIA SIGNbSEXTULA S
IGNbDIMIDIA SEXTULA SIGNbSILIQUA SIGNbDENARIUS SIGNbQUINARIUS SIGNbSESTERTIUS SIGNbDUPONDIUS SI
GNbAS SIGNbCENTURIAL SIGNaASCIA SYMBOL@101A0aGREEK SYMBOL TAU RHO@101D0aPHAISTOS DISC SIGN PEDE
STRIANdPLUMED HEADdTATTOOED HEADdCAPTIVEdCHILDdWOMANdHELMETdGAUNTLETdTIARAdARROWdBOWdSHIELDdCLU
BdMANACLESdMATTOCKdSAWdLIDdBOOMERANGdCARPENTRY PLANEdDOLIUMdCOMBdSLINGdCOLUMNdBEEHIVEdSHIPdHORN
dHIDEdBULLS LEGdCATdRAMdEAGLEdDOVEdTUNNYdBEEdPLANE TREEdVINEdPAPYRUSdROSETTEdLILYdOX BACKdFLUTE
dGRATERdSTRAINERdSMALL AXEdWAVY BANDdCOMBINING OBLIQUE STROKE@10280aLYCIAN LETTER AcEcBcBHcGcDc
IcWcZcTHcJcKcQcLcMcNcMMcNNcUcPcKKcRcScTcTTcANcENcHcX@102A0aCARIAN LETTER AcP2cDcLcUUUcRcLDcA2cQ
cBcMcOcD2cTcSHcSH2cScC-18cUcNNcXcNcTT2cPcSScIcEcUUUUcKcK2cNDcUUcGcG2cSTcST2cNGcIIcC-39cTTcUUU2c
RRcMBcMB2cMB3cMB4cLD2cE2cUUU3@102E0aCOPTIC EPACT THOUSANDS MARKcDIGIT ONEdTWOdTHREEdFOURdFIVEdS
IXdSEVENdEIGHTdNINEcNUMBER TENdTWENTYdTHIRTYdFORTYdFIFTYdSIXTYdSEVENTYdEIGHTYdNINETYdONE HUNDRE
DdTWO HUNDREDdTHREE HUNDREDdFOUR HUNDREDdFIVE HUNDREDdSIX HUNDREDdSEVEN HUNDREDdEIGHT HUNDREDdN
INE HUNDRED@10300aOLD ITALIC LETTER AdBEdKEdDEdEdVEdZEdHEdTHEdIdKAdELdEMdENdESHdOdPEdSHEdKUdERd
ESdTEdUdEKSdPHEdKHEdEFdERSdCHEdIIdUUdESScNUMERAL ONEdFIVEdTENdFIFTY@1032DcLETTER YEdNORTHERN TS
EdSOUTHERN TSEaGOTHIC LETTER AHSAcBAIRKANcGIBAcDAGScAIHVUScQAIRTHRAcIUJAcHAGLcTHIUTHcEIScKUSMAc
LAGUScMANNAcNAUTHScJERcURUScPAIRTHRAcNINETYcRAIDAcSAUILcTEIWScWINJAcFAIHUcIGGWScHWAIRcOTHALcNIN
E HUNDRED@10350aOLD PERMIC LETTER ANdBURdGAIdDOIdEdZHOIdDZHOIdZATAdDZITAdIdKOKEdLEIdMENOEdNENOE
dVOOIdPEEIdREIdSIIdTAIdUdCHERYdSHOOIdSHCHOOIdYRYdYERUdOdOOdEFdHAdTSIUdVERdYERdYERIdYATdIEdYUdYA
dIAaCOMBINING OLD PERMIC LETTER ANeDOIeZATAeNENOEeSII@10380aUGARITIC LETTER ALPAcBETAcGAMLAcKHA
cDELTAcHOcWOcZETAcHOTAcTETcYODcKAFcSHINcLAMDAcMEMcDHALcNUNcZUcSAMKAcAINcPUcSADEcQOPAcRASHAcTHAN
NAcGHAINcTOcIcUcSSU@1039FbWORD DIVIDERaOLD PERSIAN SIGN AdIdUdKAdKUdGAdGUdXAdCAdJAdJIdTAdTUdDAd
DIdDUdTHAdPAdBAdFAdNAdNUdMAdMIdMUdYAdVAdVIdRAdRUdLAdSAdZAdSHAdSSAdHA@103C8dAURAMAZDAAdAURAMAZDA
A-2dAURAMAZDAAHAdXSHAAYATHIYAdDAHYAAUSHdDAHYAAUSH-2dBAGAdBUUMISHcWORD DIVIDERcNUMBER ONEdTWOdTE
NdTWENTYdHUNDRED@10400aDESERET CAPITAL LETTER LONG IeEeAeAHeOeOOdSHORT IeEeAeAHeOeOOdAYdOWdWUdY
EEdHdPEEdBEEdTEEdDEEdCHEEdJEEdKAYdGAYdEFdVEEdETHdTHEEdESdZEEdESHdZHEEdERdELdEMdENdENGdOIdEWbSMA
LL LETTER LONG IeEeAeAHeOeOOdSHORT IeEeAeAHeOeOOdAYdOWdWUdYEEdHdPEEdBEEdTEEdDEEdCHEEdJEEdKAYdGA
YdEFdVEEdETHdTHEEdESdZEEdESHdZHEEdERdELdEMdENdENGdOIdEWaSHAVIAN LETTER PEEPcTOTcKICKcFEEcTHIGHc
SOcSUREcCHURCHcYEAcHUNGcBIBcDEADcGAGcVOWcTHEYcZOOcMEASUREcJUDGEcWOEcHA-HAcLOLLcMIMEcIFcEGGcASHc
ADOcONcWOOLcOUTcAHcROARcNUNcEATcAGEcICEcUPcOAKcOOZEcOILcAWEcAREcORcAIRcERRcARRAYcEARcIANcYEWaOS
MANYA LETTER ALEFcBAcTAcJAcXAcKHAcDEELcRAcSAcSHIINcDHAcCAYNcGAcFAcQAAFcKAAFcLAANcMIINcNUUNcWAWc
HAcYAcAcEcIcOcUcAAcEEcOO@104A0bDIGIT ZEROcONEcTWOcTHREEcFOURcFIVEcSIXcSEVENcEIGHTcNINE@104B0aOS
AGE CAPITAL LETTER AdAIdAINdAHdBRAdCHAdEHCHAdEdEINdHAdHYAdIdKAdEHKAdKYAdLAdMAdNAdOdOINdPAdEHPAd
SAdSHAdTAdEHTAdTSAdEHTSAdTSHAdDHAdUdWAdKHAdGHAdZAdZHA@104D8bSMALL LETTER AdAIdAINdAHdBRAdCHAdEH
CHAdEdEINdHAdHYAdIdKAdEHKAdKYAdLAdMAdNAdOdOINdPAdEHPAdSAdSHAdTAdEHTAdTSAdEHTSAdTSHAdDHAdUdWAdKH
AdGHAdZAdZHA@10500aELBASAN LETTER AcBEcCEcCHEcDEcNDEcDHEcEIcEcFEcGEcGJEcHEcIcJEcKEcLEcLLEcMEcNE
cNAcNJEcOcPEcQEcREcRREcSEcSHEcTEcTHEcUcVEcXEcYcZEcZHEcGHEcGHAMMAcKHE@10530aCAUCASIAN ALBANIAN L
ETTER ALTdBETdGIMdDATdEBdZARLdEYNdZHILdTASdCHAdYOWDdZHAdIRBdSHAdLANdINYAdXEYNdDYANdCARdJHOXdKAR
dLYITdHEYTdQAYdAORdCHOYdCHIdCYAYdMAQdQARdNOWCdDZYAYdSHAKdJAYNdONdTYAYdFAMdDZAYdCHATdPENdGHEYSdR
ATdSEYKdVEYZdTIWRdSHOYdIWNdCYAWdCAYNdYAYDdPIWRdKIW@1056FcCITATION MARKaVITHKUQI CAPITAL LETTE
R AdBBEdBEdCEdCHEdDEdDHEdEIdEdFEdGA@1057CdHAdHHAdIdIJEdJEdKAdLAdLLAdMEdNEdNJEdOdPEdQAdRE@1058Cd
SEdSHEdTEdTHEdUdVEdXE@10594dYdZE@10597bSMALL LETTER AdBBEdBEdCEdCHEdDEdDHEdEIdEdFEdGA@105A3dHAd
HHAdIdIJEdJEdKAdLAdLLAdMEdNEdNJEdOdPEdQAdRE@105B3dSEdSHEdTEdTHEdUdVEdXE@105BBdYdZE@10600aLINEA
R A SIGN AB001dAB002dAB003dAB004dAB005dAB006dAB007dAB008dAB009dAB010dAB011dAB013dAB016dAB017dAB
020dAB021dAB021FdAB021MdAB022dAB022FdAB022MdAB023dAB023MdAB024dAB026dAB027dAB028dA028BdAB029dAB
030dAB031dAB034dAB037dAB038dAB039dAB040dAB041dAB044dAB045dAB046dAB047dAB048dAB049dAB050dAB051dA
B053dAB054dAB055dAB056dAB057dAB058dAB059dAB060dAB061dAB065dAB066dAB067dAB069dAB070dAB073dAB074d
AB076dAB077dAB078dAB079dAB080dAB081dAB082dAB085dAB086dAB087dA100-102dAB118dAB120dA120BdAB122dAB
123dAB131AdAB131BdA131CdAB164dAB171dAB180dAB188dAB191dA301dA302dA303dA304dA305dA306dA307dA308dA
309AdA309BdA309CdA310dA311dA312dA313AdA313BdA313CdA314dA315dA316dA317dA318dA319dA320dA321dA322d
A323dA324dA325dA326dA327dA328dA329dA330dA331dA332dA333dA334dA335dA336dA337dA338dA339dA340dA341d
A342dA343dA344dA345dA346dA347dA348dA349dA350dA351dA352dA353dA354dA355dA356dA357dA358dA359dA360d
A361dA362dA363dA364dA365dA366dA367dA368dA369dA370dA371dA400-VASdA401-VASdA402-VASdA403-VASdA404
-VASdA405-VASdA406-VASdA407-VASdA408-VASdA409-VASdA410-VASdA411-VASdA412-VASdA413-VASdA414-VASd
A415-VASdA416-VASdA417-VASdA418-VASdA501dA502dA503dA504dA505dA506dA508dA509dA510dA511dA512dA513
dA515dA516dA520dA521dA523dA524dA525dA526dA527dA528dA529dA530dA531dA532dA534dA535dA536dA537dA538
dA539dA540dA541dA542dA545dA547dA548dA549dA550dA551dA552dA553dA554dA555dA556dA557dA559dA563dA564
dA565dA566dA568dA569dA570dA571dA572dA573dA574dA575dA576dA577dA578dA579dA580dA581dA582dA583dA584
dA585dA586dA587dA588dA589dA591dA592dA594dA595dA596dA598dA600dA601dA602dA603dA604dA606dA608dA609
dA610dA611dA612dA613dA614dA615dA616dA617dA618dA619dA620dA621dA622dA623dA624dA626dA627dA628dA629
dA634dA637dA638dA640dA642dA643dA644dA645dA646dA648dA649dA651dA652dA653dA654dA655dA656dA657dA658
dA659dA660dA661dA662dA663dA664@10740dA701 AdA702 BdA703 DdA704 EdA705 FdA706 HdA707 JdA708 KdA7
09 LdA709-2 L2dA709-3 L3dA709-4 L4dA709-6 L6dA710 WdA711 XdA712 YdA713 OMEGAdA714 ABBdA715 BBdA
717 DDdA726 EYYYdA732 JE@10760dA800dA801dA802dA803dA804dA805dA806dA807@10780aMODIFIER LETTER SM
ALL CAPITAL AAcSUPERSCRIPT TRIANGULAR COLONdHALF TRIANGULAR COLONcSMALL AEdCAPITAL BdB WITH HOO
K@10787dDZ DIGRAPHfWITH RETROFLEX HOOKgCURLdDEZH DIGRAPHdD WITH TAILfHOOKgAND TAILdREVERSED EdC
LOSED REVERSED OPEN EdFENG DIGRAPHdRAMS HORNdCAPITAL GdG WITH HOOKdCAPITAL G WITH HOOKdH WITH S
TROKEdCAPITAL HdHENG WITH HOOKdDOTLESS J WITH STROKE AND HOOKdLS DIGRAPHdLZ DIGRAPHdL WITH BELT
dCAPITAL L WITH BELTdL WITH RETROFLEX HOOK AND BELTdLEZHeWITH RETROFLEX HOOKdTURNED YfWITH BELT
dO WITH STROKEdCAPITAL OEdCLOSED OMEGAdQdTURNED R WITH LONG LEGiAND RETROFLEX HOOKdR WITH TAILf
FISHHOOKdCAPITAL RdTC DIGRAPH WITH CURLdTS DIGRAPHfWITH RETROFLEX HOOKdTESH DIGRAPHdT WITH RETR
OFLEX HOOKdV WITH RIGHT HOOK@107B2dCAPITAL YcGLOTTAL STOP WITH STROKEcREVERSED GLOTTAL STOP WIT
H STROKEcBILABIAL CLICKcDENTAL CLICKcLATERAL CLICKcALVEOLAR CLICKcRETROFLEX CLICK WITH RETROFLE
X HOOKcSMALL S WITH CURL@10800aCYPRIOT SYLLABLE AcEcIcOcUcJA@10808cJO@1080AcKAcKEcKIcKOcKUcLAcL
EcLIcLOcLUcMAcMEcMIcMOcMUcNAcNEcNIcNOcNUcPAcPEcPIcPOcPUcRAcREcRIcROcRUcSAcSEcSIcSOcSUcTAcTEcTIc
TOcTUcWAcWEcWIcWO@10837cXAcXE@1083CcZA@1083FcZOaIMPERIAL ARAMAIC LETTER ALEPHdBETHdGIMELdDALETH
dHEdWAWdZAYINdHETHdTETHdYODHdKAPHdLAMEDHdMEMdNUNdSAMEKHdAYINdPEdSADHEdQOPHdRESHdSHINdTAW@10857c
SECTION SIGNcNUMBER ONEdTWOdTHREEdTENdTWENTYdONE HUNDREDeTHOUSANDdTEN THOUSANDaPALMYRENE LETTE
R ALEPHcBETHcGIMELcDALETHcHEcWAWcZAYINcHETHcTETHcYODHcKAPHcLAMEDHcMEMcFINAL NUNcNUNcSAMEKHcAYIN
cPEcSADHEcQOPHcRESHcSHINcTAWbLEFT-POINTING FLEURONbRIGHT-POINTING FLEURONbNUMBER ONEcTWOcTHREEc
FOURcFIVEcTENcTWENTYaNABATAEAN LETTER FINAL ALEPHcALEPHcFINAL BETHcBETHcGIMELcDALETHcFINAL HEcH
EcWAWcZAYINcHETHcTETHcFINAL YODHcYODHcFINAL KAPHcKAPHcFINAL LAMEDHcLAMEDHcFINAL MEMcMEMcFINAL N
UNcNUNcSAMEKHcAYINcPEcSADHEcQOPHcRESHcFINAL SHINcSHINcTAW@108A7bNUMBER ONEcTWOcTHREEcFOURbCRUCI
FORM NUMBER FOURbNUMBER FIVEcTENcTWENTYcONE HUNDRED@108E0aHATRAN LETTER ALEPHcBETHcGIMELcDALETH
-RESHcHEcWAWcZAYNcHETHcTETHcYODHcKAPHcLAMEDHcMEMcNUNcSAMEKHcAYNcPEcSADHEcQOPH@108F4cSHINcTAW@10
8FBbNUMBER ONEcFIVEcTENcTWENTYcONE HUNDREDaPHOENICIAN LETTER ALFcBETcGAMLcDELTcHEcWAUcZAIcHETcT
ETcYODcKAFcLAMDcMEMcNUNcSEMKcAINcPEcSADEcQOFcROSHcSHINcTAUbNUMBER ONEcTENcTWENTYcONE HUNDREDcTW
OcTHREE@1091FbWORD SEPARATORaLYDIAN LETTER AcBcGcDcEcVcIcYcKcLcMcNcOcRcSScTcUcFcQcScTTcANcENcLY
cNNcC@1093FbTRIANGULAR MARK@10980aMEROITIC HIEROGLYPHIC LETTER AdEdIdOdYAdWAdBAdBA-2dPAdMAdNAdN
A-2dNEdNE-2dRAdRA-2dLAdKHAdHHAdSAdSA-2dSEdKAdQAdTAdTA-2dTEdTE-2dTOdDAcSYMBOL VIDJdVIDJ-2bCURSIV
E LETTER AdEdIdOdYAdWAdBAdPAdMAdNAdNEdRAdLAdKHAdHHAdSAdARCHAIC SAdSEdKAdQAdTAdTEdTOdDA@109BCcFR
ACTION ELEVEN TWELFTHSdONE HALFcLOGOGRAM RMTdIMNcNUMBER ONEdTWOdTHREEdFOURdFIVEdSIXdSEVENdEIGHT
dNINEdTENdTWENTYdTHIRTYdFORTYdFIFTYdSIXTYdSEVENTY@109D2dONE HUNDREDdTWO HUNDREDdTHREE HUNDREDdF
OUR HUNDREDdFIVE HUNDREDdSIX HUNDREDdSEVEN HUNDREDdEIGHT HUNDREDdNINE HUNDREDdONE THOUSANDdTW
O THOUSANDdTHREE THOUSANDdFOUR THOUSANDdFIVE THOUSANDdSIX THOUSANDdSEVEN THOUSANDdEIGHT THOUSAN
DdNINE THOUSANDdTEN THOUSANDdTWENTY THOUSANDdTHIRTY THOUSANDdFORTY THOUSANDdFIFTY THOUSANDdSIXT
Y THOUSANDdSEVENTY THOUSANDdEIGHTY THOUSANDdNINETY THOUSANDdONE HUNDRED THOUSANDdTWO HUNDRED TH
OUSANDdTHREE HUNDRED THOUSANDdFOUR HUNDRED THOUSANDdFIVE HUNDRED THOUSANDdSIX HUNDRED THOUSANDd
SEVEN HUNDRED THOUSANDdEIGHT HUNDRED THOUSANDdNINE HUNDRED THOUSANDcFRACTION ONE TWELFTHdTWO TW
ELFTHSdTHREE TWELFTHSdFOUR TWELFTHSdFIVE TWELFTHSdSIX TWELFTHSdSEVEN TWELFTHSdEIGHT TWELFTHSdNI
NE TWELFTHSdTEN TWELFTHSaKHAROSHTHI LETTER AbVOWEL SIGN IdUdVOCALIC R@10A05dEdO@10A0CcLENGTH MA
RKbSIGN DOUBLE RING BELOWcANUSVARAcVISARGAbLETTER KAcKHAcGAcGHA@10A15cCAcCHAcJA@10A19cNYAcTTAcT
THAcDDAcDDHAcNNAcTAcTHAcDAcDHAcNAcPAcPHAcBAcBHAcMAcYAcRAcLAcVAcSHAcSSAcSAcZAcHAcKKAcTTTHAcTTTAc
VHA@10A38bSIGN BAR ABOVEcCAUDAcDOT BELOW@10A3FbVIRAMAbDIGIT ONEcTWOcTHREEcFOURbNUMBER TENcTWENT
YcONE HUNDREDdTHOUSANDbFRACTION ONE HALF@10A50bPUNCTUATION DOTcSMALL CIRCLEcCIRCLEcCRESCENT BAR
cMANGALAMcLOTUScDANDAcDOUBLE DANDAcLINES@10A60aOLD SOUTH ARABIAN LETTER HEeLAMEDHeHETHeMEMeQOPH
eWAWeSHINeRESHeBETHeTAWeSATeKAPHeNUNeKHETHeSADHEeSAMEKHeFEeALEFeAYNeDHADHEeGIMELeDALETHeGHAYNeT
ETHeZAYNeDHALETHeYODHeTHAWeTHETHdNUMBER ONEeFIFTYdNUMERIC INDICATORbNORTH ARABIAN LETTER HEHeLA
MeHAHeMEEMeQAFeWAWeES-2eREHeBEHeTEHeES-1eKAFeNOONeKHAHeSADeES-3eFEHeALEFeAINeDADeGEEMeDALeGHAIN
eTAHeZAINeTHALeYEHeTHEHeZAHdNUMBER ONEeTENeTWENTY@10AC0aMANICHAEAN LETTER ALEPHcBETHcBHETHcGIME
LcGHIMELcDALETHcHEcWAWbSIGN UDbLETTER ZAYINcZHAYINcJAYINcJHAYINcHETHcTETHcYODHcKAPHcXAPHcKHAPHc
LAMEDHcDHAMEDHcTHAMEDHcMEMcNUNcSAMEKHcAYINcAAYINcPEcFEcSADHEcQOPHcXOPHcQHOPHcRESHcSHINcSSHINcTA
WbABBREVIATION MARK ABOVEdBELOW@10AEBbNUMBER ONEcFIVEcTENcTWENTYcONE HUNDREDbPUNCTUATION STARcF
LEURONcDOUBLE DOT WITHIN DOTcDOT WITHIN DOTdcTWO DOTScLINE FILLER@10B00aAVESTAN LETTER AcAAcAOc
AAOcANcAANcAEcAEEcEcEEcOcOOcIcIIcUcUUcKEcXEcXYEcXVEcGEcGGEcGHEcCEcJEcTEcTHEcDEcDHEcTTEcPEcFEcBE
cBHEcNGEcNGYEcNGVEcNEcNYEcNNEcMEcHMEcYYEcYEcVEcREcLEcSEcZEcSHEcZHEcSHYEcSSHEcHE@10B39bABBREVIAT
ION MARKaTINY TWO DOTS OVER ONE DOT PUNCTUATIONaSMALL TWO DOTS OVER ONE DOT PUNCTUATIONaLARGE T
WO DOTS OVER ONE DOT PUNCTUATIONbONE DOT OVER TWO DOTS PUNCTUATIONbTWO RINGS OVER ONE RING PUNC
TUATIONbONE RING OVER TWO RINGS PUNCTUATIONaINSCRIPTIONAL PARTHIAN LETTER ALEPHdBETHdGIMELdDALE
THdHEdWAWdZAYINdHETHdTETHdYODHdKAPHdLAMEDHdMEMdNUNdSAMEKHdAYINdPEdSADHEdQOPHdRESHdSHINdTAW@10B5
8cNUMBER ONEdTWOdTHREEdFOURdTENdTWENTYdONE HUNDREDeTHOUSANDbPAHLAVI LETTER ALEPHdBETHdGIMELdDAL
ETHdHEdWAW-AYIN-RESHdZAYINdHETHdTETHdYODHdKAPHdLAMEDHdMEM-QOPHdNUNdSAMEKHdPEdSADHEdSHINdTAW@10B
78cNUMBER ONEdTWOdTHREEdFOURdTENdTWENTYdONE HUNDREDeTHOUSANDaPSALTER PAHLAVI LETTER ALEPHdBETHd
GIMELdDALETHdHEdWAW-AYIN-RESHdZAYINdHETHdYODHdKAPHdLAMEDHdMEM-QOPHdNUNdSAMEKHdPEdSADHEdSHINdTAW
@10B99cSECTION MARKcTURNED SECTION MARKcFOUR DOTS WITH CROSSfDOT@10BA9cNUMBER ONEdTWOdTHREEdFOU
RdTENdTWENTYdONE HUNDRED@10C00aOLD TURKIC LETTER ORKHON AdYENISEI AeAEdORKHON IdYENISEI IeEdORK
HON OeOEdYENISEI OEdORKHON ABdYENISEI ABdORKHON AEBdYENISEI AEBdORKHON AGdYENISEI AGdORKHON AEG
dYENISEI AEGdORKHON ADdYENISEI ADdORKHON AEDeEZdYENISEI EZdORKHON AYdYENISEI AYdORKHON AEYdYENI
SEI AEYdORKHON AEKdYENISEI AEKdORKHON OEKdYENISEI OEKdORKHON ALdYENISEI ALdORKHON AELeELTeEMeAN
eAENdYENISEI AENdORKHON ENTdYENISEI ENTdORKHON ENCdYENISEI ENCdORKHON ENYdYENISEI ENYeANGdORKHO
N ENGdYENISEI AENGdORKHON EPeOPeICeECdYENISEI ECdORKHON AQdYENISEI AQdORKHON IQdYENISEI IQdORKH
ON OQdYENISEI OQdORKHON ARdYENISEI ARdORKHON AEReASeAESeASHdYENISEI ASHdORKHON ESHdYENISEI ESHd
ORKHON ATdYENISEI ATdORKHON AETdYENISEI AETdORKHON OTeBASH@10C80bHUNGARIAN CAPITAL LETTER AeAAe
EBeAMBeECeENCeECSeEDeANDeEeCLOSE EeEEeEFeEGeEGYeEHeIeIIeEJeEKeAKeUNKeELeELYeEMeENeENYeOeOOeNIKO
LSBURG OEeRUDIMENTA OEeOEEeEPeEMPeEReSHORT EReESeESZeETeENTeETYeECHeUeUUeNIKOLSBURG UEeRUDIMENT
A UEeEVeEZeEZSeENT-SHAPED SIGNeUS@10CC0cSMALL LETTER AeAAeEBeAMBeECeENCeECSeEDeANDeEeCLOSE EeEE
eEFeEGeEGYeEHeIeIIeEJeEKeAKeUNKeELeELYeEMeENeENYeOeOOeNIKOLSBURG OEeRUDIMENTA OEeOEEeEPeEMPeERe
SHORT EReESeESZeETeENTeETYeECHeUeUUeNIKOLSBURG UEeRUDIMENTA UEeEVeEZeEZSeENT-SHAPED SIGNeUS@10C
FAcNUMBER ONEdFIVEdTENdFIFTYdONE HUNDREDeTHOUSANDaHANIFI ROHINGYA LETTER AdBAdPAdTAdTTAdJAdCAdH
AdKHAdFAdDAdDDAdRAdRRAdZAdSAdSHAdKAdGAdLAdMAdNAdWAdKINNA WAdYAdKINNA YAdNGAdNYAdVAcVOWEL AdIdUd
EdOcMARK SAKINdNA KHONNAcSIGN HARBAHAYdTAHALAdTANAdTASSI@10D30cDIGIT ZEROdONEdTWOdTHREEdFOURdFI
VEdSIXdSEVENdEIGHTdNINE@10E60aRUMI DIGIT ONEcTWOcTHREEcFOURcFIVEcSIXcSEVENcEIGHTcNINEbNUMBER TE
NcTWENTYcTHIRTYcFORTYcFIFTYcSIXTYcSEVENTYcEIGHTYcNINETYcONE HUNDREDcTWO HUNDREDcTHREE HUNDREDcF
OUR HUNDREDcFIVE HUNDREDcSIX HUNDREDcSEVEN HUNDREDcEIGHT HUNDREDcNINE HUNDREDbFRACTION ONE HALF
dQUARTERdTHIRDcTWO THIRDS@10E80aYEZIDI LETTER ELIFcBEcPEcPHEcTHEcSEcCIMcCHIMcCHHIMcHHAcXAcDALcZ
ALcRAcRHAcZAcJAcSINcSHINcSADcDADcTAcZEcEYNcXHEYNcFAcVAdALTERNATE FORMcQAFcKAFcKHAFcGAFcLAMcMIMc
NUNcUMcWAWcOWcEWcHAYcYOTcET@10EABbCOMBINING HAMZA MARKcMADDA MARKbHYPHENATION MARK@10EB0bLETTE
R LAM WITH DOT ABOVEcYOT WITH CIRCUMFLEX ABOVE@10F00aOLD SOGDIAN LETTER ALEPHdFINAL ALEPHdBETHd
FINAL BETHdGIMELdHEdFINAL HEdWAWdZAYINdHETHdYODHdKAPHdLAMEDHdMEMdNUNdFINAL NUNfWITH VERTICAL TA
ILdSAMEKHdAYINdALTERNATE AYINdPEdSADHEdFINAL SADHEfWITH VERTICAL TAILdRESH-AYIN-DALETHdSHINdTAW
dFINAL TAWfWITH VERTICAL TAILcNUMBER ONEdTWOdTHREEdFOURdFIVEdTENdTWENTYdTHIRTYdONE HUNDREDcFRAC
TION ONE HALFcLIGATURE AYIN-DALETH@10F30aSOGDIAN LETTER ALEPHcBETHcGIMELcHEcWAWcZAYINcHETHcYODH
cKAPHcLAMEDHcMEMcNUNcSAMEKHcAYINcPEcSADHEcRESH-AYINcSHINcTAWcFETHcLESHbINDEPENDENT SHINbCOMBINI
NG DOT BELOWcTWO DOTS BELOWcDOT ABOVEcTWO DOTS ABOVEcCURVE ABOVEdBELOWcHOOK ABOVEdBELOWcLONG HO
OK BELOWcRESH BELOWcSTROKE BELOWbNUMBER ONEcTENcTWENTYcONE HUNDREDbPUNCTUATION TWO VERTICAL BAR
SfWITH DOTScCIRCLE WITH DOTcTWO CIRCLES WITH DOTScHALF CIRCLE WITH DOT@10F70aOLD UYGHUR LETTE
R ALEPHdBETHdGIMEL-HETHdWAWdZAYINdFINAL HETHdYODHdKAPHdLAMEDHdMEMdNUNdSAMEKHdPEdSADHEdRESHdSHIN
dTAWdLESHcCOMBINING DOT ABOVEeBELOWdTWO DOTS ABOVEfBELOWcPUNCTUATION BARdTWO BARSeDOTSdFOUR DOT
S@10FB0aCHORASMIAN LETTER ALEPHcSMALL ALEPHcBETHcGIMELcDALETHcHEcWAWcCURLED WAWcZAYINcHETHcYODH
cKAPHcLAMEDHcMEMcNUNcSAMEKHcAYINcPEcRESHcSHINcTAWbNUMBER ONEcTWOcTHREEcFOURcTENcTWENTYcONE HUND
RED@10FE0aELYMAIC LETTER ALEPHcBETHcGIMELcDALETHcHEcWAWcZAYINcHETHcTETHcYODHcKAPHcLAMEDHcMEMcNU
NcSAMEKHcAYINcPEcSADHEcQOPHcRESHcSHINcTAWbLIGATURE ZAYIN-YODH@11000aBRAHMI SIGN CANDRABINDUcANU
SVARAcVISARGAcJIHVAMULIYAcUPADHMANIYAbLETTER AcAAcIcIIcUcUUcVOCALIC RdRRdLdLLcEcAIcOcAUcKAcKHAc
GAcGHAcNGAcCAcCHAcJAcJHAcNYAcTTAcTTHAcDDAcDDHAcNNAcTAcTHAcDAcDHAcNAcPAcPHAcBAcBHAcMAcYAcRAcLAcV
AcSHAcSSAcSAcHAcLLAcOLD TAMIL LLLAeRRAeNNNAbVOWEL SIGN AAdBHATTIPROLU AAdIdIIdUdUUdVOCALIC ReRR
eLeLLdEdAIdOdAUbVIRAMAbDANDAbDOUBLE DANDAbPUNCTUATION DOTcDOUBLE DOTcLINEcCRESCENT BARcLOTUS@11
052bNUMBER ONEcTWOcTHREEcFOURcFIVEcSIXcSEVENcEIGHTcNINEcTENcTWENTYcTHIRTYcFORTYcFIFTYcSIXTYcSEV
ENTYcEIGHTYcNINETYcONE HUNDREDdTHOUSANDbDIGIT ZEROcONEcTWOcTHREEcFOURcFIVEcSIXcSEVENcEIGHTcNINE
bSIGN OLD TAMIL VIRAMAbLETTER OLD TAMIL SHORT EfObVOWEL SIGN OLD TAMIL SHORT EgObLETTER OLD TAM
IL LLA@1107FbNUMBER JOINERaKAITHI SIGN CANDRABINDUcANUSVARAcVISARGAbLETTER AcAAcIcIIcUcUUcEcAIc
OcAUcKAcKHAcGAcGHAcNGAcCAcCHAcJAcJHAcNYAcTTAcTTHAcDDAcDDDHAcDDHAcRHAcNNAcTAcTHAcDAcDHAcNAcPAcPH
AcBAcBHAcMAcYAcRAcLAcVAcSHAcSSAcSAcHAbVOWEL SIGN AAdIdIIdUdUUdEdAIdOdAUbSIGN VIRAMAcNUKTAbABBRE
VIATION SIGNbENUMERATION SIGNbNUMBER SIGNbSECTION MARKbDOUBLE SECTION MARKbDANDAbDOUBLE DANDAbV
OWEL SIGN VOCALIC R@110CDbNUMBER SIGN ABOVE@110D0aSORA SOMPENG LETTER SAHdTAHdBAHdCAHdDAHdGAHdM
AHdNGAHdLAHdNAHdVAHdPAHdYAHdRAHdHAHdKAHdJAHdNYAHdAHdEEHdIHdUHdOHdEHdMAE@110F0cDIGIT ZEROdONEdTW
OdTHREEdFOURdFIVEdSIXdSEVENdEIGHTdNINE@11100aCHAKMA SIGN CANDRABINDUcANUSVARAcVISARGAbLETTER AA
cIcUcEcKAAcKHAAcGAAcGHAAcNGAAcCAAcCHAAcJAAcJHAAcNYAAcTTAAcTTHAAcDDAAcDDHAAcNNAAcTAAcTHAAcDAAcDH
AAcNAAcPAAcPHAAcBAAcBHAAcMAAcYYAAcYAAcRAAcLAAcWAAcSAAcHAAbVOWEL SIGN AdIdIIdUdUUdEdAIdOdAUdOIb
O MARKbAU MARKbVIRAMAbMAAYYAA@11136bDIGIT ZEROcONEcTWOcTHREEcFOURcFIVEcSIXcSEVENcEIGHTcNINEbSEC
TION MARKbDANDAbDOUBLE DANDAbQUESTION MARKbLETTER LHAAbVOWEL SIGN AAdEIbLETTER VAA@11150aMAHAJA
NI LETTER AcIcUcEcOcKAcKHAcGAcGHAcCAcCHAcJAcJHAcNYAcTTAcTTHAcDDAcDDHAcNNAcTAcTHAcDAcDHAcNAcPAcP
HAcBAcBHAcMAcRAcLAcVAcSAcHAcRRAbSIGN NUKTAbABBREVIATION SIGNbSECTION MARKbLIGATURE SHRI@11180aS
HARADA SIGN CANDRABINDUcANUSVARAcVISARGAbLETTER AcAAcIcIIcUcUUcVOCALIC RdRRdLdLLcEcAIcOcAUcKAcK
HAcGAcGHAcNGAcCAcCHAcJAcJHAcNYAcTTAcTTHAcDDAcDDHAcNNAcTAcTHAcDAcDHAcNAcPAcPHAcBAcBHAcMAcYAcRAcL
AcLLAcVAcSHAcSSAcSAcHAbVOWEL SIGN AAdIdIIdUdUUdVOCALIC ReRReLeLLdEdAIdOdAUbSIGN VIRAMAcAVAGRAHA
cJIHVAMULIYAcUPADHMANIYAbOMbDANDAbDOUBLE DANDAbABBREVIATION SIGNbSEPARATORbSANDHI MARKbSIGN NUK
TAbVOWEL MODIFIER MARKbEXTRA SHORT VOWEL MARKbSUTRA MARKbVOWEL SIGN PRISHTHAMATRA EbSIGN INVERT
ED CANDRABINDUbDIGIT ZEROcONEcTWOcTHREEcFOURcFIVEcSIXcSEVENcEIGHTcNINEbEKAMbSIGN SIDDHAMbHEADST
ROKEbCONTINUATION SIGNbSECTION MARK-1cMARK-2@111E1aSINHALA ARCHAIC DIGIT ONEdTWOdTHREEdFOURdFIV
EdSIXdSEVENdEIGHTdNINEcNUMBER TENdTWENTYdTHIRTYdFORTYdFIFTYdSIXTYdSEVENTYdEIGHTYdNINETYdONE HUN
DREDeTHOUSAND@11200aKHOJKI LETTER AcAAcIcUcEcAIcOcAUcKAcKHAcGAcGGAcGHAcNGAcCAcCHAcJAcJJA@11213c
NYAcTTAcTTHAcDDAcDDHAcNNAcTAcTHAcDAcDDDAcDHAcNAcPAcPHAcBAcBBAcBHAcMAcYAcRAcLAcVAcSAcHAcLLAbVOWE
L SIGN AAdIdIIdUdEdAIdOdAUbSIGN ANUSVARAcVIRAMAcNUKTAcSHADDAbDANDAbDOUBLE DANDAbWORD SEPARATORb
SECTION MARKbDOUBLE SECTION MARKbABBREVIATION SIGNbSIGN SUKUN@11280aMULTANI LETTER AcIcUcEcKAcK
HAcGA@11288cGHA@1128AcCAcCHAcJAcJJA@1128FcNYAcTTAcTTHAcDDAcDDDAcDDHAcNNAcTAcTHAcDAcDHAcNAcPAcPH
AcBA@1129FcBHAcMAcYAcRAcLAcVAcSAcHAcRRAcRHAbSECTION MARK@112B0aKHUDAWADI LETTER AcAAcIcIIcUcUUc
EcAIcOcAUcKAcKHAcGAcGGAcGHAcNGAcCAcCHAcJAcJJAcJHAcNYAcTTAcTTHAcDDAcDDDAcRRAcDDHAcNNAcTAcTHAcDAc
DHAcNAcPAcPHAcBAcBBAcBHAcMAcYAcRAcLAcVAcSHAcSAcHAbSIGN ANUSVARAbVOWEL SIGN AAdIdIIdUdUUdEdAIdOd
AUbSIGN NUKTAcVIRAMA@112F0bDIGIT ZEROcONEcTWOcTHREEcFOURcFIVEcSIXcSEVENcEIGHTcNINE@11300aGRANTH
A SIGN COMBINING ANUSVARA ABOVEcCANDRABINDUcANUSVARAcVISARGA@11305bLETTER AcAAcIcIIcUcUUcVOCALI
C RdL@1130FcEEcAI@11313cOOcAUcKAcKHAcGAcGHAcNGAcCAcCHAcJAcJHAcNYAcTTAcTTHAcDDAcDDHAcNNAcTAcTHAc
DAcDHAcNA@1132AcPAcPHAcBAcBHAcMAcYAcRA@11332cLAcLLA@11335cVAcSHAcSSAcSAcHA@1133BaCOMBINING BIND
U BELOWaGRANTHA SIGN NUKTAcAVAGRAHAbVOWEL SIGN AAdIdIIdUdUUdVOCALIC ReRR@11347dEEdAI@1134BdOOdA
UbSIGN VIRAMA@11350bOM@11357bAU LENGTH MARK@1135DbSIGN PLUTAbLETTER VEDIC ANUSVARAdDOUBLE ANUSV
ARAcVOCALIC RRdLLbVOWEL SIGN VOCALIC LeLL@11366aCOMBINING GRANTHA DIGIT ZEROdONEdTWOdTHREEdFOUR
dFIVEdSIX@11370cLETTER AdKAdNAdVIdPA@11400aNEWA LETTER AcAAcIcIIcUcUUcVOCALIC RdRRdLdLLcEcAIcOc
AUcKAcKHAcGAcGHAcNGAcNGHAcCAcCHAcJAcJHAcNYAcNYHAcTTAcTTHAcDDAcDDHAcNNAcTAcTHAcDAcDHAcNAcNHAcPAc
PHAcBAcBHAcMAcMHAcYAcRAcRHAcLAcLHAcWAcSHAcSSAcSAcHAbVOWEL SIGN AAdIdIIdUdUUdVOCALIC ReRReLeLLdE
dAIdOdAUbSIGN VIRAMAcCANDRABINDUcANUSVARAcVISARGAcNUKTAcAVAGRAHAcFINAL ANUSVARAbOMbSIDDHIbDANDA
bDOUBLE DANDAbCOMMAbGAP FILLERbABBREVIATION SIGNbDIGIT ZEROcONEcTWOcTHREEcFOURcFIVEcSIXcSEVENcE
IGHTcNINEbDOUBLE COMMAbPLACEHOLDER MARK@1145DbINSERTION SIGNbSANDHI MARKbLETTER VEDIC ANUSVARAb
SIGN JIHVAMULIYAcUPADHMANIYA@11480aTIRHUTA ANJIbLETTER AcAAcIcIIcUcUUcVOCALIC RdRRdLdLLcEcAIcOc
AUcKAcKHAcGAcGHAcNGAcCAcCHAcJAcJHAcNYAcTTAcTTHAcDDAcDDHAcNNAcTAcTHAcDAcDHAcNAcPAcPHAcBAcBHAcMAc
YAcRAcLAcVAcSHAcSSAcSAcHAbVOWEL SIGN AAdIdIIdUdUUdVOCALIC ReRReLeLLdEdSHORT EdAIdOdSHORT OdAUbS
IGN CANDRABINDUcANUSVARAcVISARGAcVIRAMAcNUKTAcAVAGRAHAbGVANGbABBREVIATION SIGNbOM@114D0bDIGIT Z
EROcONEcTWOcTHREEcFOURcFIVEcSIXcSEVENcEIGHTcNINE@11580aSIDDHAM LETTER AcAAcIcIIcUcUUcVOCALIC Rd
RRdLdLLcEcAIcOcAUcKAcKHAcGAcGHAcNGAcCAcCHAcJAcJHAcNYAcTTAcTTHAcDDAcDDHAcNNAcTAcTHAcDAcDHAcNAcPA
cPHAcBAcBHAcMAcYAcRAcLAcVAcSHAcSSAcSAcHAbVOWEL SIGN AAdIdIIdUdUUdVOCALIC ReRR@115B8dEdAIdOdAUbS
IGN CANDRABINDUcANUSVARAcVISARGAcVIRAMAcNUKTAcSIDDHAMbDANDAbDOUBLE DANDAbSEPARATOR DOTcBARbREPE
TITION MARK-1cMARK-2cMARK-3bEND OF TEXT MARKbSECTION MARK WITH TRIDENT AND U-SHAPED ORNAMENTSgD
OTTED CRESCENTSeRAYS AND DOTTED CRESCENTShDOUBLE CRESCENTShTRIPLE CRESCENTSdDOUBLE RINGfWITH RA
YSdWITH DOUBLE CRESCENTSeTRIPLE CRESCENTSeQUADRUPLE CRESCENTSeSEPTUPLE CRESCENTSeCIRCLES AND RA
YSgTWO ENCLOSURESgFOUR ENCLOSURESbLETTER THREE-CIRCLE ALTERNATE IcTWO-CIRCLE ALTERNATE IeIIcALT
ERNATE UbVOWEL SIGN ALTERNATE UeUU@11600aMODI LETTER AcAAcIcIIcUcUUcVOCALIC RdRRdLdLLcEcAIcOcAU
cKAcKHAcGAcGHAcNGAcCAcCHAcJAcJHAcNYAcTTAcTTHAcDDAcDDHAcNNAcTAcTHAcDAcDHAcNAcPAcPHAcBAcBHAcMAcYA
cRAcLAcVAcSHAcSSAcSAcHAcLLAbVOWEL SIGN AAdIdIIdUdUUdVOCALIC ReRReLeLLdEdAIdOdAUbSIGN ANUSVARAcV
ISARGAcVIRAMAcARDHACANDRAbDANDAbDOUBLE DANDAbABBREVIATION SIGNbSIGN HUVA@11650bDIGIT ZEROcONEcT
WOcTHREEcFOURcFIVEcSIXcSEVENcEIGHTcNINE@11660aMONGOLIAN BIRGA WITH ORNAMENTbROTATED BIRGAbDOUBL
E BIRGA WITH ORNAMENTbTRIPLE BIRGA WITH ORNAMENTbBIRGA WITH DOUBLE ORNAMENTbROTATED BIRGA WIT
H ORNAMENTeDOUBLE ORNAMENTbINVERTED BIRGAdWITH DOUBLE ORNAMENTbSWIRL BIRGAdWITH ORNAMENTeDOUBL
E ORNAMENTbTURNED SWIRL BIRGA WITH DOUBLE ORNAMENT@11680aTAKRI LETTER AcAAcIcIIcUcUUcEcAIcOcAUc
KAcKHAcGAcGHAcNGAcCAcCHAcJAcJHAcNYAcTTAcTTHAcDDAcDDHAcNNAcTAcTHAcDAcDHAcNAcPAcPHAcBAcBHAcMAcYAc
RAcLAcVAcSHAcSAcHAcRRAbSIGN ANUSVARAcVISARGAbVOWEL SIGN AAdIdIIdUdUUdEdAIdOdAUbSIGN VIRAMAcNUKT
AbLETTER ARCHAIC KHAbABBREVIATION SIGN@116C0bDIGIT ZEROcONEcTWOcTHREEcFOURcFIVEcSIXcSEVENcEIGHT
cNINE@11700aAHOM LETTER KAcKHAcNGAcNAcTAcALTERNATE TAcPAcPHAcBAcMAcJAcCHAcTHAcRAcLAcSAcNYAcHAcA
cDAcDHAcGAcALTERNATE GAcGHAcBHAcJHAcALTERNATE BA@1171DbCONSONANT SIGN MEDIAL LAeRAeLIGATING RAb
VOWEL SIGN AdAAdIdIIdUdUUdEdAWdOdAIdAMbSIGN KILLER@11730bDIGIT ZEROcONEcTWOcTHREEcFOURcFIVEcSIX
cSEVENcEIGHTcNINEbNUMBER TENcTWENTYbSIGN SMALL SECTIONcSECTIONcRULAIbSYMBOL VIbLETTER CAcTTAcTT
HAcDDAcDDHAcNNAcLLA@11800aDOGRA LETTER AcAAcIcIIcUcUUcEcAIcOcAUcKAcKHAcGAcGHAcNGAcCAcCHAcJAcJHA
cNYAcTTAcTTHAcDDAcDDHAcNNAcTAcTHAcDAcDHAcNAcPAcPHAcBAcBHAcMAcYAcRAcLAcVAcSHAcSSAcSAcHAcRRAbVOWE
L SIGN AAdIdIIdUdUUdVOCALIC ReRRdEdAIdOdAUbSIGN ANUSVARAcVISARGAcVIRAMAcNUKTAbABBREVIATION SIGN
@118A0aWARANG CITI CAPITAL LETTER NGAAeAeWIeYUeYAeYOeIIeUUeEeOeANGeGAeKOeENYeYUJeUCeENNeODDeTTE
eNUNGeDAeATeAMeBUePUeHIYOeHOLOeHORReHAReSSUUeSIIeVIYOcSMALL LETTER NGAAeAeWIeYUeYAeYOeIIeUUeEeO
eANGeGAeKOeENYeYUJeUCeENNeODDeTTEeNUNGeDAeATeAMeBUePUeHIYOeHOLOeHORReHAReSSUUeSIIeVIYOcDIGIT ZE
ROdONEdTWOdTHREEdFOURdFIVEdSIXdSEVENdEIGHTdNINEcNUMBER TENdTWENTYdTHIRTYdFORTYdFIFTYdSIXTYdSEVE
NTYdEIGHTYdNINETY@118FFcOMaDIVES AKURU LETTER AdAAdIdIIdUdUUdE@11909dO@1190CdKAdKHAdGAdGHAdNGAd
CAdCHAdJA@11915dNYAdTTA@11918dDDAdDDHAdNNAdTAdTHAdDAdDHAdNAdPAdPHAdBAdBHAdMAdYAdYYAdRAdLAdVAdSH
AdSSAdSAdHAdLLAdZAcVOWEL SIGN AAeIeIIeUeUUeE@11937eAIeO@1193BcSIGN ANUSVARAdCANDRABINDUdHALANTA
cVIRAMAcPREFIXED NASAL SIGNcMEDIAL YAcINITIAL RAcMEDIAL RAcSIGN NUKTAcDOUBLE DANDAcGAP FILLERcE
ND OF TEXT MARK@11950cDIGIT ZEROdONEdTWOdTHREEdFOURdFIVEdSIXdSEVENdEIGHTdNINE@119A0aNANDINAGAR
I LETTER AcAAcIcIIcUcUUcVOCALIC RdRR@119AAcEcAIcOcAUcKAcKHAcGAcGHAcNGAcCAcCHAcJAcJHAcNYAcTTAcTT
HAcDDAcDDHAcNNAcTAcTHAcDAcDHAcNAcPAcPHAcBAcBHAcMAcYAcRAcLAcVAcSHAcSSAcSAcHAcLLAcRRAbVOWEL SIG
N AAdIdIIdUdUUdVOCALIC ReRR@119DAdEdAIdOdAUbSIGN ANUSVARAcVISARGAcVIRAMAcAVAGRAHAcSIDDHAMbHEADS
TROKEbVOWEL SIGN PRISHTHAMATRA E@11A00aZANABAZAR SQUARE LETTER AcVOWEL SIGN IeUEeUeEeOEeOeAIeAU
eREVERSED IdLENGTH MARKcLETTER KAdKHAdGAdGHAdNGAdCAdCHAdJAdNYAdTTAdTTHAdDDAdDDHAdNNAdTAdTHAdDAd
DHAdNAdPAdPHAdBAdBHAdMAdTSAdTSHAdDZAdDZHAdZHAdZAd-AdYAdRAdLAdVAdSHAdSSAdSAdHAdKSSAcFINAL CONSON
ANT MARKcSIGN VIRAMAdCANDRABINDUeWITH ORNAMENTdCANDRA WITH ORNAMENTdANUSVARAdVISARGAcCLUSTER-IN
ITIAL LETTER RAcCLUSTER-FINAL LETTER YAeRAeLAeVAcINITIAL HEAD MARKcCLOSING HEAD MARKcMARK TSHEG
dSHADdDOUBLE SHADdLONG TSHEGcINITIAL DOUBLE-LINED HEAD MARKcCLOSING DOUBLE-LINED HEAD MARKcSUBJ
OINER@11A50aSOYOMBO LETTER AbVOWEL SIGN IdUEdUdEdOdOEdAIdAUdVOCALIC ReLcLENGTH MARKbLETTER KAcK
HAcGAcGHAcNGAcCAcCHAcJAcJHAcNYAcTTAcTTHAcDDAcDDHAcNNAcTAcTHAcDAcDHAcNAcPAcPHAcBAcBHAcMAcTSAcTSH
AcDZAcZHAcZAc-AcYAcRAcLAcVAcSHAcSSAcSAcHAcKSSAbSIGN JIHVAMULIYAcUPADHMANIYAbCLUSTER-INITIAL LET
TER RAdLAdSHAdSAbFINAL CONSONANT SIGN GeKeNGeDeNeBeMeReLeSHeSe-AbSIGN ANUSVARAcVISARGAbGEMINATI
ON MARKbSUBJOINERbMARK TSHEGcSHADcDOUBLE SHADcPLUTAbHEAD MARK WITH MOON AND SUN AND TRIPLE FLAM
EiFLAMEhbTERMINAL MARK-1cMARK-2@11AB0aCANADIAN SYLLABICS NATTILIK HIdHIIdHOdHOOdHAdHAAdSHRIdSHR
IIdSHROdSHROOdSHRAdSHRAAcSPEcSPIcSPOcSPAaPAU CIN HAU LETTER PAeKAeLAeMAeDAeZAeVAeNGAeHAeGAeKHAe
SAeBAeCAeTAeTHAeNAePHAeRAeFAeCHAeAeEeIeOeUeUAeIAeFINAL PfKfTfMfNfLfWfNGfYdRISING TONE LONGfdSAN
DHI GLOTTAL STOPdRISING TONE LONG FINALfFINALdSANDHI GLOTTAL STOP FINALeTONE LONGffLONG FINALfF
INALdMID-LEVEL TONEdGLOTTAL STOP VARIANTdMID-LEVEL TONE LONG FINALfFINALdLOW-FALLING TONE LONGf
dGLOTTAL STOPdLOW-FALLING TONE LONG FINALfFINALdGLOTTAL STOP FINAL@11C00aBHAIKSUKI LETTER AcAAc
IcIIcUcUUcVOCALIC RdRRdL@11C0AcEcAIcOcAUcKAcKHAcGAcGHAcNGAcCAcCHAcJAcJHAcNYAcTTAcTTHAcDDAcDDHAc
NNAcTAcTHAcDAcDHAcNAcPAcPHAcBAcBHAcMAcYAcRAcLAcVAcSHAcSSAcSAcHAbVOWEL SIGN AAdIdIIdUdUUdVOCALI
C ReRReL@11C38dEdAIdOdAUbSIGN CANDRABINDUcANUSVARAcVISARGAcVIRAMAcAVAGRAHAbDANDAbDOUBLE DANDAbW
ORD SEPARATORbGAP FILLER-1cFILLER-2@11C50bDIGIT ZEROcONEcTWOcTHREEcFOURcFIVEcSIXcSEVENcEIGHTcNI
NEbNUMBER ONEcTWOcTHREEcFOURcFIVEcSIXcSEVENcEIGHTcNINEcTENcTWENTYcTHIRTYcFORTYcFIFTYcSIXTYcSEVE
NTYcEIGHTYcNINETYbHUNDREDS UNIT MARK@11C70aMARCHEN HEAD MARKbMARK SHADbLETTER KAcKHAcGAcNGAcCAc
CHAcJAcNYAcTAcTHAcDAcNAcPAcPHAcBAcMAcTSAcTSHAcDZAcWAcZHAcZAc-AcYAcRAcLAcSHAcSAcHAcA@11C92bSUBJO
INED LETTER KAdKHAdGAdNGAdCAdCHAdJAdNYAdTAdTHAdDAdNAdPAdPHAdBAdMAdTSAdTSHAdDZAdWAdZHAdZA@11CA9d
YAdRAdLAdSHAdSAdHAdAbVOWEL SIGN AAdIdUdEdObSIGN ANUSVARAcCANDRABINDU@11D00aMASARAM GONDI LETTE
R AdAAdIdIIdUdUUdE@11D08dAIdO@11D0BdAUdKAdKHAdGAdGHAdNGAdCAdCHAdJAdJHAdNYAdTTAdTTHAdDDAdDDHAdNN
AdTAdTHAdDAdDHAdNAdPAdPHAdBAdBHAdMAdYAdRAdLAdVAdSHAdSSAdSAdHAdLLAdKSSAdJNYAdTRAcVOWEL SIGN AAeI
eIIeUeUUeVOCALIC R@11D3AeE@11D3CeAIeO@11D3FeAUcSIGN ANUSVARAdVISARGAdNUKTAdCANDRAdHALANTAcVIRAM
AcREPHAcRA-KARA@11D50cDIGIT ZEROdONEdTWOdTHREEdFOURdFIVEdSIXdSEVENdEIGHTdNINE@11D60aGUNJALA GON
DI LETTER AdAAdIdIIdUdUU@11D67dEEdAI@11D6AdOOdAUdYAdVAdBAdBHAdMAdKAdKHAdTAdTHAdLAdGAdGHAdDAdDHA
dNAdCAdCHAdTTAdTTHAdLLAdJAdJHAdDDAdDDHAdNGAdPAdPHAdHAdRAdSAcVOWEL SIGN AAeIeIIeUeUU@11D90eEEeAI
@11D93eOOeAUcSIGN ANUSVARAdVISARGAcVIRAMAcOM@11DA0cDIGIT ZEROdONEdTWOdTHREEdFOURdFIVEdSIXdSEVEN
dEIGHTdNINE@11EE0aMAKASAR LETTER KAcGAcNGAcPAcBAcMAcTAcDAcNAcCAcJAcNYAcYAcRAcLAcVAcSAcAbANGKAbV
OWEL SIGN IdUdEdObPASSIMBANGbEND OF SECTION@11FB0aLISU LETTER YHA@11FC0aTAMIL FRACTION ONE THRE
E-HUNDRED-AND-TWENTIETHdONE-HUNDRED-AND-SIXTIETHdEIGHTIETHdSIXTY-FOURTHdFORTIETHdTHIRTY-SECONDc
THREE EIGHTIETHSdSIXTY-FOURTHScONE TWENTIETHdSIXTEENTH-1dSIXTEENTH-2dTENTHdEIGHTHcTHREE TWENTIE
THSdSIXTEENTHScONE FIFTHdQUARTERdHALF-1dHALF-2cTHREE QUARTERScDOWNSCALING FACTOR KIIZHbSIGN NEL
cCEVITUcAAZHAAKKUcUZHAKKUcMUUVUZHAKKUcKURUNIcPATHAKKUcMUKKURUNIcKAACUcPANAMcPONcVARAAKANcPAARAM
cKUZHIcVELIbWET CULTIVATION SIGNbDRY CULTIVATION SIGNbLAND SIGNbSALT PAN SIGNbTRADITIONAL CREDI
T SIGNcNUMBER SIGNbCURRENT SIGNbAND ODD SIGNbSPENT SIGNbTOTAL SIGNbIN POSSESSION SIGNbSTARTIN
G FROM SIGNbSIGN MUTHALIYAcVAKAIYARAA@11FFFbPUNCTUATION END OF TEXTaCUNEIFORM SIGN AdTIMES AeBA
DeGAN2 TENUeHAeIGIeLAGAR GUNUeMUSHeSAGcA2cABdTIMES ASH2eDUN3 GUNUeGALeGAN2 TENUeHAeIGI GUNUeIMI
NeLAGABeSHESHeU PLUS U PLUS UdGUNUcAB2dTIMES BALAGeGAN2 TENUeME PLUS ENeSHA3eTAK4cADcAKdTIMES E
RIN2eSHITA PLUS GISHcALdTIMES ALeDIM2eGISHeHAeKAD3eKIeSHEeUSHcALANcALEPHcAMARdTIMES SHEcANdOVE
R ANdTHREE TIMESdPLUS NAGA OPPOSING AN PLUS NAGAfSQUAREDcANSHEcAPINcARADdTIMES KURcARKABcASAL2c
ASHdZIDA TENUdKABA TENUdOVER ASH TUG2 OVER TUG2 TUG2 OVER TUG2 PAPfOVER ASHhCROSSING ASH OVER A
SH OVER ASHcASH2cASHGABcBAcBADcBAG3cBAHAR2cBALdOVER BALcBALAGcBARcBARA2cBIdTIMES AeGAReIGI GUNU
cBUdOVER BU ABfUNdCROSSING BUcBULUGdOVER BULUGcBURcBUR2cDAcDAGdKISIM5 TIMES A PLUS MASHfAMARfBA
LAGfBIfGAgPLUS MASHfGIfGIR2fGUDfHAfIRgPLUS LUfKAKfLAfLUgPLUS MASH2fLUMfNEfPAP PLUS PAPfSIfTAK4f
U2 PLUS GIR2fUSHcDAMcDARcDARA3cDARA4cDIcDIBcDIMdTIMES SHEcDIM2cDINdKASKAL U GUNU DISHcDISHcDUdO
VER DUdGUNUdSHESHIGcDUBdTIMES ESH2cDUB2cDUGcDUGUDcDUHcDUNcDUN3dGUNUeGUNUcDUN4cDUR2cEdTIMES PAPd
OVER E NUN OVER NUNcE2dTIMES A PLUS HA PLUS DAeGAReMIeSALeSHEeUcEDINcEGIRcELcENdTIMES GAN2fTENU
eMEdCROSSING ENdOPPOSING ENdSQUAREDcERENcERIN2cESH2cEZENdTIMES AfPLUS LALhTIMES LALeANeBADeDUN
3 GUNUgGUNUeHAfGUNUeIGI GUNUeKASKALfSQUAREDeKU3eLAeLAL TIMES LALeLIeLUeU2eUDcGAdGUNUcGA2dTIME
S A PLUS DA PLUS HAgHAgIGIeAB2 TENU PLUS TABeANeASHeASH2 PLUS GALeBADeBAR PLUS RAeBURfPLUS RAeD
AeDIeDIM TIMES SHEeDUBeELfPLUS LAeENfTIMES GAN2 TENUeGAN2 TENUeGAReGIeGI4fPLUS AeGIR2 PLUS SUeH
A PLUS LU PLUS ESH2eHALfPLUS LAeHI PLUS LIeHUB2eIGI GUNUeISH PLUS HU PLUS ASHeKAKeKASKALeKIDfPL
US LALeKU3 PLUS ANeLAeME PLUS ENeMIeNUNfOVER NUNePAeSALeSAReSHEfPLUS TUReSHIDeSUMeTAK4eUeUDfPLU
S DUdOVER GA2cGABAdCROSSING GABAcGADdOVER GAD GAR OVER GARcGALdGAD OVER GAD GAR OVER GARcGALAMc
GAMcGANcGAN2dTENUdOVER GAN2dCROSSING GAN2cGARcGAR3cGASHANcGESHTINdTIMES KURcGIdTIMES EeUdCROSSI
NG GIcGI4dOVER GI4dCROSSING GI4cGIDIMcGIR2dGUNUcGIR3dTIMES A PLUS IGIeGAN2 TENUeIGIeLU PLUS IGI
ePAcGISALcGISHdCROSSING GISHdTIMES BADeTAK4dTENUcGUdCROSSING GUcGU2dTIMES KAKfTIMES IGI GUNUeNU
NeSAL PLUS TUG2dGUNUcGUDdTIMES A PLUS KUReKURdOVER GUD LUGALcGULcGUMdTIMES SHEcGURcGUR7cGURUNcG
URUSHcHAdTENUdGUNUcHALcHIdTIMES ASHeASH2eBADeDISHeGADeKINeNUNeSHEeUcHUcHUB2dTIMES ANeHALeKASKAL
eLISHeUDcHUL2cIdAcIBcIDIMdOVER IDIM BURfSQUAREDcIGcIGIdDIBdRIdOVER IGI SHIR OVER SHIR UD OVER U
DdGUNUcILdTIMES GAN2 TENUcIL2cIMdTIMES TAK4dCROSSING IMdOPPOSING IMdSQUAREDcIMINcINcIRcISHcKAdT
IMES AeADfPLUS KU3eASH2eBADeBALAGeBAReBIeERIN2eESH2eGAeGALeGAN2 TENUeGARfPLUS SHA3 PLUS AeGIeGI
R2eGISH PLUS SARfCROSSING GISHeGUeGUR7eIGIeIMeKAKeKIeKIDeLIeLUeMEfPLUS DUgGIgTEeMIfPLUS NUNUZeN
EeNUNePIeRUeSAeSAReSHAeSHEeSHIDeSHUeSIGeSUHUReTAReUeU2eUDeUMUM TIMES PAeUSHeZIcKA2dCROSSING KA2
cKABcKAD2cKAD3cKAD4cKAD5dOVER KAD5cKAKdTIMES IGI GUNUcKALdTIMES BADdCROSSING KALcKAM2cKAM4cKASK
ALdLAGAB TIMES U OVER LAGAB TIMES UdOVER KASKAL LAGAB TIMES U OVER LAGAB TIMES UcKESH2cKIdTIME
S BADeUeUDcKIDcKINcKISALcKISHcKISIM5dOVER KISIM5cKUdOVER HI TIMES ASH2 KU OVER HI TIMES ASH2cKU
3cKU4dVARIANT FORMcKU7cKULdGUNUcKUNcKURdOPPOSING KURcKUSHU2cKWU318cLAcLAGABdTIMES AfPLUS DA PLU
S HAgGARgLALeALeANeASH ZIDA TENUeBADeBIeDAReENeGAeGAReGUDfPLUS GUDeHAeHALeHI TIMES NUNeIGI GUNU
eIMfPLUS HAgLUeKIeKINeKU3eKULfPLUS HI PLUS AeLAGABeLISHeLUeLULeMEfPLUS ENeMUSHeNEeSHE PLUS SUMe
SHITA PLUS GISH PLUS ERIN2hTENUeSHU2fPLUS SHU2eSUMeTAGeTAK4eTE PLUS A PLUS SU PLUS NAeUfPLUS Ag
U PLUS UeU2 PLUS ASHeUDeUSHdSQUAREDcLAGARdTIMES SHEfPLUS SUMdGUNUeOVER LAGAR GUNU SHEcLAHSHUcLA
LdTIMES LALcLAMdTIMES KURfPLUS RUcLIcLILcLIMMU2cLISHcLUdTIMES BADcLU2dTIMES ALeBADeESH2fTENUeGA
N2 TENUeHI TIMES BADeIMeKAD2eKAD3fPLUS ASHeKIeLA PLUS ASHeLAGABeME PLUS ENeNEeNUeSI PLUS ASHeSI
K2 PLUS BUeTUG2dTENUdCROSSING LU2dOPPOSING LU2dSQUAREDdSHESHIGcLU3cLUGALdOVER LUGALdOPPOSING LU
GALdSHESHIGcLUHcLULcLUMdOVER LUMfGAR OVER GARcMAdTIMES TAK4dGUNUcMA2cMAHcMARcMASHcMASH2cMEcMESc
MIcMINcMUdOVER MUcMUGdGUNUcMUNSUBcMURGU2cMUSHdTIMES AeKUReZAdOVER MUSHfTIMES A PLUS NAdCROSSIN
G MUSHcMUSH3dTIMES AfPLUS DIeDIdGUNUcNAcNA2cNAGAdINVERTEDdTIMES SHU TENUdOPPOSING NAGAcNAGARcNA
M NUTILLUdcNAM2cNEdTIMES AeUDdSHESHIGcNIdTIMES EcNI2cNIMdTIMES GAN2 TENUeGAR PLUS GAN2 TENUcNIN
DA2dTIMES ANeASHfPLUS ASHeGUDeME PLUS GAN2 TENUeNEeNUNeSHEfPLUS A ANgASHhPLUS ASHeU2 PLUS ASHeU
SHcNISAGcNUcNU11cNUNdLAGAR TIMES GARfMASHfSALgOVER NUN LAGAR TIMES SALfUSHdTENUdOVER NUNdCROSSI
NG NUNfLAGAR OVER LAGARcNUNUZdAB2 TIMES ASHGABfBIfDUGfGUDfIGI GUNUfKAD3fLAfNEfSILA3fU2dKISIM5 T
IMES BIgUcPAcPADcPANcPAPcPESH2cPIdTIMES AeABeBIeBUeEeIeIBeUeU2dCROSSING PIcPIRIGdTIMES KALeUDeZ
AdOPPOSING PIRIGcRAcRABcRIcRUcSAcSAG NUTILLUddTIMES AeDUeDUBeHAeKAKeKUReLUMeMIeNUNeSALeSHIDeTAB
eU2eUBeUMeUReUSHdOVER SAGdGUNUcSALdLAGAB TIMES ASH2cSANGA2cSARcSHAcSHA3dTIMES AeBADeGISHeNEeSHU
2eTUReUfPLUS AcSHA6cSHAB6cSHAR2cSHEdHUdOVER SHE GAD OVER GAD GAR OVER GARfTAB OVER TAB GAR OVE
R GARcSHEG9cSHENcSHESHcSHESH2cSHESHLAMcSHIDdTIMES AeIMcSHIMdTIMES AeBALeBULUGeDINeGAReIGIfGUNUe
KUSHU2eLULeMUGeSALcSHINIGcSHIRdTENU@122D4cNU11 TENUcSHIR OVER SHIR BUR OVER BUR@122D5cNU11 OVE
R NU11 BUR OVER BURcSHITAcSHUdOVER INVERTED SHUcSHU2cSHUBURcSIdGUNUcSIGcSIG4dOVER SIG4 SHU2cSIK
2cSILA3cSUdOVER SUcSUDcSUD2cSUHURcSUMcSUMASHcSURcSUR9cTAdASTERISKdTIMES HIeMIdGUNUcTABdOVER TA
B NI OVER NI DISH OVER DISHdSQUAREDcTAGdTIMES BIeGUDeSHEeSHUeTUG2eUDcTAK4cTARcTEdGUNUcTIdTENUcT
ILcTIRdTIMES TAK4dOVER TIRfGAD OVER GAD GAR OVER GARcTUcTUG2cTUKcTUMcTURdOVER TUR ZA OVER ZAcUd
GUDdU UdOVER U PA OVER PA GAR OVER GARfSUR OVER SURfU REVERSED OVER U REVERSEDcU2cUBcUDdKUSHU2d
TIMES BADeMIeU PLUS U PLUS UjGUNUdGUNUdSHESHIGeTIMES BADcUDUGcUMdTIMES LAGABeME PLUS DAeSHA3eUc
UMBINcUMUMdTIMES KASKALePAcUNdGUNUcURdCROSSING URdSHESHIGcUR2dTIMES A PLUS HAgNAeALeHAeNUNeU2fP
LUS ASHgBIcUR4cURIcURI3cURUdTIMES AeASHGABeBAReDUNeGAeGALeGAN2 TENUeGAReGUeHAeIGIeIMeISHeKIeLUM
eMINePAeSHEeSIG4eTUeU PLUS GUDeUDeURUDAcURUDAdTIMES UcUSHdTIMES AeKUeKUReTAK4cUSHXcUSH2cUSHUMXc
UTUKIcUZ3dTIMES KASKALcUZUcZAdTENUdSQUARED TIMES KURcZAGcZAMXcZE2cZIdOVER ZIcZI3cZIBdKABA TENUc
ZIGcZIZ2cZUcZU5dTIMES AcZUBURcZUMcKAP ELAMITEcAB TIMES NUNcAB2 TIMES AcAMAR TIMES KUGcDAG KISIM
5 TIMES U2 PLUS MASHcDAG3cDISH PLUS SHUcDUB TIMES SHEcEZEN TIMES GUDeSHEcGA2 TIMES AN PLUS KA
K PLUS AeASH2cGE22cGIGcHUSHcKA TIMES ANSHEeASH3eGISHeGUDeHI TIMES ASH2eLUMePAeSHULeTUeUR2cLAGA
B TIMES GIcLU2 SHESHIG TIMES BADdTIMES ESH2 PLUS LALeSHUcMESHcMUSH3 TIMES ZAcNA4cNINcNIN9cNINDA
2 TIMES BALeGIcNU11 ROTATED NINETY DEGREEScPESH2 ASTERISKcPIR2cSAG TIMES IGI GUNUcTI2cUM TIME
S MEcU U@12400bNUMERIC SIGN TWO ASHdTHREE ASHdFOUR ASHdFIVE ASHdSIX ASHdSEVEN ASHdEIGHT ASHdNIN
E ASHdTHREE DISHdFOUR DISHdFIVE DISHdSIX DISHdSEVEN DISHdEIGHT DISHdNINE DISHdFOUR UdFIVE UdSI
X UdSEVEN UdEIGHT UdNINE UdONE GESH2dTWO GESH2dTHREE GESH2dFOUR GESH2dFIVE GESH2dSIX GESH2dSEVE
N GESH2dEIGHT GESH2dNINE GESH2dONE GESHUdTWO GESHUdTHREE GESHUdFOUR GESHUdFIVE GESHUdTWO SHAR2d
THREE SHAR2fVARIANT FORMdFOUR SHAR2dFIVE SHAR2dSIX SHAR2dSEVEN SHAR2dEIGHT SHAR2dNINE SHAR2dON
E SHARUdTWO SHARUdTHREE SHARUfVARIANT FORMdFOUR SHARUdFIVE SHARUdSHAR2 TIMES GAL PLUS DISHhMINd
ONE BURUdTWO BURUdTHREE BURUfVARIANT FORMdFOUR BURUdFIVE BURUdTHREE VARIANT FORM ESH16gESH21dFO
UR VARIANT FORM LIMMUgLIMMU4gLIMMU AhBdSIX VARIANT FORM ASH9dSEVEN VARIANT FORM IMIN3gIMIN AhBd
EIGHT VARIANT FORM USSUgUSSU3dNINE VARIANT FORM ILIMMUgILIMMU3gILIMMU4gILIMMU AdTWO ASH TENUdTH
REE ASH TENUdFOUR ASH TENUdFIVE ASH TENUdSIX ASH TENUdONE BAN2dTWO BAN2dTHREE BAN2dFOUR BAN2fVA
RIANT FORMdFIVE BAN2fVARIANT FORMdNIGIDAMINdNIGIDAESHdONE ESHE3dTWO ESHE3dONE THIRD DISHdTWO TH
IRDS DISHdFIVE SIXTHS DISHdONE THIRD VARIANT FORM AdTWO THIRDS VARIANT FORM AdONE EIGHTH ASHeQU
ARTER ASHdOLD ASSYRIAN ONE SIXTHgQUARTERdONE QUARTER GUReHALF GURdELAMITE ONE THIRDeTWO THIRDSe
FORTYeFIFTYdFOUR U VARIANT FORMdFIVE U VARIANT FORMdSIX U VARIANT FORMdSEVEN U VARIANT FORMdEIG
HT U VARIANT FORMdNINE U VARIANT FORM@12470bPUNCTUATION SIGN OLD ASSYRIAN WORD DIVIDERdVERTICA
L COLONdDIAGONAL COLONeTRICOLONeQUADCOLON@12480bSIGN AB TIMES NUN TENUeSHU2cAD TIMES ESH2cBAD T
IMES DISH TENUcBAHAR2 TIMES AB2eNIeZAcBU OVER BU TIMES NA2cDA TIMES TAK4cDAG TIMES KURcDIM TIME
S IGIeU U UcDIM2 TIMES UDcDUG TIMES ANSHEeASHfAT LEFTeDINeDUNeERIN2eGAeGIeGIR2 GUNUeGISHeHAeHIe
IGI GUNUeKASKALeKUReKUSHU2fPLUS KASKALeLAK-020eLAMfTIMES KUReLUH PLUS GISHeMASHeMESeMIeNIePIeSH
EeSI GUNUcE2 TIMES KURePAPcERIN2 XcESH2 CROSSING ESH2cEZEN SHESHIG TIMES ASHfHIfIGI GUNUfLAfLAL
fMEfMESfSUdTIMES SUcGA2 TIMES BAHAR2eDIM GUNUeDUG TIMES IGI GUNUgKASKALeERENeGAeGAR PLUS DIgNEe
HA PLUS AeKUSHU2 PLUS KASKALeLAMfTIMES KUReLUHeMUSHeNEfPLUS E2gGIeSHIMeZIZ2cGABA ROTATED NINET
Y DEGREEScGESHTIN TIMES UcGISH TIMES GISH CROSSING GISHcGU2 TIMES IGI GUNUcGUD PLUS GISH TIME
S TAK4cHA TENU GUNUcHI TIMES ASH OVER HI TIMES ASHcKA TIMES BUeKAeU U UeURcLAGAB TIMES ZU OVE
R ZUcLAK-003cLAK-021cLAK-025cLAK-030cLAK-050cLAK-051cLAK-062cLAK-079 OVER LAK-079 GUNUcLAK-080c
LAK-081 OVER LAK-081cLAK-092cLAK-130cLAK-142cLAK-210cLAK-219cLAK-220cLAK-225cLAK-228cLAK-238cLA
K-265cLAK-266cLAK-343cLAK-347cLAK-348cLAK-383cLAK-384cLAK-390cLAK-441cLAK-449dTIMES GUeIGIePA
P PLUS LU3gPAP PLUS LU3eU2 PLUS BAcLAK-450cLAK-457cLAK-470cLAK-483cLAK-490cLAK-492cLAK-493cLAK-
495cLAK-550cLAK-608cLAK-617dTIMES ASHeBADeDUN3 GUNU GUNUeKU3eLAeTAReTEeU2eUDeURUDAcLAK-636cLAK-
648dTIMES DUBeGAeIGIfGUNUeNIePAP PLUS PAP PLUS LU3eSHESH PLUS KIeUDeURUDAcLAK-724cLAK-749cLU2 G
UNU TIMES ASHdTIMES DISHeHALePAPfPLUS PAP PLUS LU3eTAK4cMI PLUS ZA7cMUSH OVER MUSH TIMES GAgKAK
cNINDA2 TIMES DIM GUNUeGISHeGULeHIeKESH2eLAK-050eMASHePAP PLUS PAPeUfPLUS UeURUDAcSAG GUNU TIME
S HAdTIMES ENeSHE AT LEFTeTAK4cSHA6 TENUcSHE OVER SHEdPLUS HUB2eNAM2eSARcSHU2 PLUS DUG TIMES NI
eE2 TIMES ANcSI TIMES TAK4cTAK4 PLUS SAGcTUM TIMES GAN2 TENUeTHREE DISHcUR2 INVERTEDdTIMES UDcU
RU TIMES DARA3eLAK-668eLU3cZA7cZU OVER ZU PLUS SARcZU5 TIMES THREE DISH TENU@12F90aCYPRO-MINOA
N SIGN CM001cCM002cCM004cCM005cCM006cCM007cCM008cCM009cCM010cCM011cCM012cCM012BcCM013cCM015cCM0
17cCM019cCM021cCM023cCM024cCM025cCM026cCM027cCM028cCM029cCM030cCM033cCM034cCM035cCM036cCM037cCM
038cCM039cCM040cCM041cCM044cCM046cCM047cCM049cCM050cCM051cCM052cCM053cCM054cCM055cCM056cCM058cC
M059cCM060cCM061cCM062cCM063cCM064cCM066cCM067cCM068cCM069cCM070cCM071cCM072cCM073cCM074cCM075c
CM075BcCM076cCM078cCM079cCM080cCM081cCM082cCM083cCM084cCM085cCM086cCM087cCM088cCM089cCM090cCM09
1cCM092cCM094cCM095cCM096cCM097cCM098cCM099cCM100cCM101cCM102cCM103cCM104cCM105cCM107cCM108cCM1
09cCM110cCM112cCM114cCM301cCM302@13000aEGYPTIAN HIEROGLYPH A001cA002cA003cA004cA005cA005AcA006c
A006AcA006BcA007cA008cA009cA010cA011cA012cA013cA014cA014AcA015cA016cA017cA017AcA018cA019cA020cA
021cA022cA023cA024cA025cA026cA027cA028cA029cA030cA031cA032cA032AcA033cA034cA035cA036cA037cA038c
A039cA040cA040AcA041cA042cA042AcA043cA043AcA044cA045cA045AcA046cA047cA048cA049cA050cA051cA052cA
053cA054cA055cA056cA057cA058cA059cA060cA061cA062cA063cA064cA065cA066cA067cA068cA069cA070cB001cB
002cB003cB004cB005cB005AcB006cB007cB008cB009cC001cC002cC002AcC002BcC002CcC003cC004cC005cC006cC0
07cC008cC009cC010cC010AcC011cC012cC013cC014cC015cC016cC017cC018cC019cC020cC021cC022cC023cC024cD
001cD002cD003cD004cD005cD006cD007cD008cD008AcD009cD010cD011cD012cD013cD014cD015cD016cD017cD018c
D019cD020cD021cD022cD023cD024cD025cD026cD027cD027AcD028cD029cD030cD031cD031AcD032cD033cD034cD03
4AcD035cD036cD037cD038cD039cD040cD041cD042cD043cD044cD045cD046cD046AcD047cD048cD048AcD049cD050c
D050AcD050BcD050CcD050DcD050EcD050FcD050GcD050HcD050IcD051cD052cD052AcD053cD054cD054AcD055cD056
cD057cD058cD059cD060cD061cD062cD063cD064cD065cD066cD067cD067AcD067BcD067CcD067DcD067EcD067FcD06
7GcD067HcE001cE002cE003cE004cE005cE006cE007cE008cE008AcE009cE009AcE010cE011cE012cE013cE014cE015
cE016cE016AcE017cE017AcE018cE019cE020cE020AcE021cE022cE023cE024cE025cE026cE027cE028cE028AcE029c
E030cE031cE032cE033cE034cE034AcE036cE037cE038cF001cF001AcF002cF003cF004cF005cF006cF007cF008cF00
9cF010cF011cF012cF013cF013AcF014cF015cF016cF017cF018cF019cF020cF021cF021AcF022cF023cF024cF025cF
026cF027cF028cF029cF030cF031cF031AcF032cF033cF034cF035cF036cF037cF037AcF038cF038AcF039cF040cF04
1cF042cF043cF044cF045cF045AcF046cF046AcF047cF047AcF048cF049cF050cF051cF051AcF051BcF051CcF052cF0
53cG001cG002cG003cG004cG005cG006cG006AcG007cG007AcG007BcG008cG009cG010cG011cG011AcG012cG013cG01
4cG015cG016cG017cG018cG019cG020cG020AcG021cG022cG023cG024cG025cG026cG026AcG027cG028cG029cG030cG
031cG032cG033cG034cG035cG036cG036AcG037cG037AcG038cG039cG040cG041cG042cG043cG043AcG044cG045cG04
5AcG046cG047cG048cG049cG050cG051cG052cG053cG054cH001cH002cH003cH004cH005cH006cH006AcH007cH008cI
001cI002cI003cI004cI005cI005AcI006cI007cI008cI009cI009AcI010cI010AcI011cI011AcI012cI013cI014cI0
15cK001cK002cK003cK004cK005cK006cK007cK008cL001cL002cL002AcL003cL004cL005cL006cL006AcL007cL008c
M001cM001AcM001BcM002cM003cM003AcM004cM005cM006cM007cM008cM009cM010cM010AcM011cM012cM012AcM012B
cM012CcM012DcM012EcM012FcM012GcM012HcM013cM014cM015cM015AcM016cM016AcM017cM017AcM018cM019cM020c
M021cM022cM022AcM023cM024cM024AcM025cM026cM027cM028cM028AcM029cM030cM031cM031AcM032cM033cM033Ac
M033BcM034cM035cM036cM037cM038cM039cM040cM040AcM041cM042cM043cM044cN001cN002cN003cN004cN005cN00
6cN007cN008cN009cN010cN011cN012cN013cN014cN015cN016cN017cN018cN018AcN018BcN019cN020cN021cN022cN
023cN024cN025cN025AcN026cN027cN028cN029cN030cN031cN032cN033cN033AcN034cN034AcN035cN035AcN036cN0
37cN037AcN038cN039cN040cN041cN042cNL001cNL002cNL003cNL004cNL005cNL005AcNL006cNL007cNL008cNL009c
NL010cNL011cNL012cNL013cNL014cNL015cNL016cNL017cNL017AcNL018cNL019cNL020cNU001cNU002cNU003cNU00
4cNU005cNU006cNU007cNU008cNU009cNU010cNU010AcNU011cNU011AcNU012cNU013cNU014cNU015cNU016cNU017cN
U018cNU018AcNU019cNU020cNU021cNU022cNU022AcO001cO001AcO002cO003cO004cO005cO005AcO006cO006AcO006
BcO006CcO006DcO006EcO006FcO007cO008cO009cO010cO010AcO010BcO010CcO011cO012cO013cO014cO015cO016cO
017cO018cO019cO019AcO020cO020AcO021cO022cO023cO024cO024AcO025cO025AcO026cO027cO028cO029cO029AcO
030cO030AcO031cO032cO033cO033AcO034cO035cO036cO036AcO036BcO036CcO036DcO037cO038cO039cO040cO041c
O042cO043cO044cO045cO046cO047cO048cO049cO050cO050AcO050BcO051cP001cP001AcP002cP003cP003AcP004cP
005cP006cP007cP008cP009cP010cP011cQ001cQ002cQ003cQ004cQ005cQ006cQ007cR001cR002cR002AcR003cR003A
cR003BcR004cR005cR006cR007cR008cR009cR010cR010AcR011cR012cR013cR014cR015cR016cR016AcR017cR018cR
019cR020cR021cR022cR023cR024cR025cR026cR027cR028cR029cS001cS002cS002AcS003cS004cS005cS006cS006A
cS007cS008cS009cS010cS011cS012cS013cS014cS014AcS014BcS015cS016cS017cS017AcS018cS019cS020cS021cS
022cS023cS024cS025cS026cS026AcS026BcS027cS028cS029cS030cS031cS032cS033cS034cS035cS035AcS036cS03
7cS038cS039cS040cS041cS042cS043cS044cS045cS046cT001cT002cT003cT003AcT004cT005cT006cT007cT007AcT
008cT008AcT009cT009AcT010cT011cT011AcT012cT013cT014cT015cT016cT016AcT017cT018cT019cT020cT021cT0
22cT023cT024cT025cT026cT027cT028cT029cT030cT031cT032cT032AcT033cT033AcT034cT035cT036cU001cU002c
U003cU004cU005cU006cU006AcU006BcU007cU008cU009cU010cU011cU012cU013cU014cU015cU016cU017cU018cU01
9cU020cU021cU022cU023cU023AcU024cU025cU026cU027cU028cU029cU029AcU030cU031cU032cU032AcU033cU034c
U035cU036cU037cU038cU039cU040cU041cU042cV001cV001AcV001BcV001CcV001DcV001EcV001FcV001GcV001HcV0
01IcV002cV002AcV003cV004cV005cV006cV007cV007AcV007BcV008cV009cV010cV011cV011AcV011BcV011CcV012c
V012AcV012BcV013cV014cV015cV016cV017cV018cV019cV020cV020AcV020BcV020CcV020DcV020EcV020FcV020GcV
020HcV020IcV020JcV020KcV020LcV021cV022cV023cV023AcV024cV025cV026cV027cV028cV028AcV029cV029AcV03
0cV030AcV031cV031AcV032cV033cV033AcV034cV035cV036cV037cV037AcV038cV039cV040cV040AcW001cW002cW00
3cW003AcW004cW005cW006cW007cW008cW009cW009AcW010cW010AcW011cW012cW013cW014cW014AcW015cW016cW017
cW017AcW018cW018AcW019cW020cW021cW022cW023cW024cW024AcW025cX001cX002cX003cX004cX004AcX004BcX005
cX006cX006AcX007cX008cX008AcY001cY001AcY002cY003cY004cY005cY006cY007cY008cZ001cZ002cZ002AcZ002B
cZ002CcZ002DcZ003cZ003AcZ003BcZ004cZ004AcZ005cZ005AcZ006cZ007cZ008cZ009cZ010cZ011cZ012cZ013cZ01
4cZ015cZ015AcZ015BcZ015CcZ015DcZ015EcZ015FcZ015GcZ015HcZ015IcZ016cZ016AcZ016BcZ016CcZ016DcZ016E
cZ016FcZ016GcZ016HcAA001cAA002cAA003cAA004cAA005cAA006cAA007cAA007AcAA007BcAA008cAA009cAA010cAA
011cAA012cAA013cAA014cAA015cAA016cAA017cAA018cAA019cAA020cAA021cAA022cAA023cAA024cAA025cAA026cA
A027cAA028cAA029cAA030cAA031cAA032@13430cVERTICAL JOINERcHORIZONTAL JOINERcINSERT AT TOP STARTe
BOTTOM STARTeTOP ENDeBOTTOM ENDcOVERLAY MIDDLEcBEGIN SEGMENTcEND SEGMENT@14400aANATOLIAN HIEROG
LYPH A001cA002cA003cA004cA005cA006cA007cA008cA009cA010cA010AcA011cA012cA013cA014cA015cA016cA017
cA018cA019cA020cA021cA022cA023cA024cA025cA026cA026AcA027cA028cA029cA030cA031cA032cA033cA034cA03
5cA036cA037cA038cA039cA039AcA040cA041cA041AcA042cA043cA044cA045cA045AcA046cA046AcA046BcA047cA04
8cA049cA050cA051cA052cA053cA054cA055cA056cA057cA058cA059cA060cA061cA062cA063cA064cA065cA066cA06
6AcA066BcA066CcA067cA068cA069cA070cA071cA072cA073cA074cA075cA076cA077cA078cA079cA080cA081cA082c
A083cA084cA085cA086cA087cA088cA089cA090cA091cA092cA093cA094cA095cA096cA097cA097AcA098cA098AcA09
9cA100cA100AcA101cA101AcA102cA102AcA103cA104cA104AcA104BcA104CcA105cA105AcA105BcA106cA107cA107A
cA107BcA107CcA108cA109cA110cA110AcA110BcA111cA112cA113cA114cA115cA115AcA116cA117cA118cA119cA120
cA121cA122cA123cA124cA125cA125AcA126cA127cA128cA129cA130cA131cA132cA133cA134cA135cA135AcA136cA1
37cA138cA139cA140cA141cA142cA143cA144cA145cA146cA147cA148cA149cA150cA151cA152cA153cA154cA155cA1
56cA157cA158cA159cA160cA161cA162cA163cA164cA165cA166cA167cA168cA169cA170cA171cA172cA173cA174cA1
75cA176cA177cA178cA179cA180cA181cA182cA183cA184cA185cA186cA187cA188cA189cA190cA191cA192cA193cA1
94cA195cA196cA197cA198cA199cA200cA201cA202cA202AcA202BcA203cA204cA205cA206cA207cA207AcA208cA209
cA209AcA210cA211cA212cA213cA214cA215cA215AcA216cA216AcA217cA218cA219cA220cA221cA222cA223cA224cA
225cA226cA227cA227AcA228cA229cA230cA231cA232cA233cA234cA235cA236cA237cA238cA239cA240cA241cA242c
A243cA244cA245cA246cA247cA248cA249cA250cA251cA252cA253cA254cA255cA256cA257cA258cA259cA260cA261c
A262cA263cA264cA265cA266cA267cA267AcA268cA269cA270cA271cA272cA273cA274cA275cA276cA277cA278cA279
cA280cA281cA282cA283cA284cA285cA286cA287cA288cA289cA289AcA290cA291cA292cA293cA294cA294AcA295cA2
96cA297cA298cA299cA299AcA300cA301cA302cA303cA304cA305cA306cA307cA308cA309cA309AcA310cA311cA312c
A313cA314cA315cA316cA317cA318cA319cA320cA321cA322cA323cA324cA325cA326cA327cA328cA329cA329AcA330
cA331cA332AcA332BcA332CcA333cA334cA335cA336cA336AcA336BcA336CcA337cA338cA339cA340cA341cA342cA34
3cA344cA345cA346cA347cA348cA349cA350cA351cA352cA353cA354cA355cA356cA357cA358cA359cA359AcA360cA3
61cA362cA363cA364cA364AcA365cA366cA367cA368cA368AcA369cA370cA371cA371AcA372cA373cA374cA375cA376
cA377cA378cA379cA380cA381cA381AcA382cA383 RA OR RIcA383AcA384cA385cA386cA386AcA387cA388cA389cA3
90cA391cA392cA393 EIGHTcA394cA395cA396cA397cA398cA399cA400cA401cA402cA403cA404cA405cA406cA407cA
408cA409cA410 BEGIN LOGOGRAM MARKcA410A END LOGOGRAM MARKcA411cA412cA413cA414cA415cA416cA417cA4
18cA419cA420cA421cA422cA423cA424cA425cA426cA427cA428cA429cA430cA431cA432cA433cA434cA435cA436cA4
37cA438cA439cA440cA441cA442cA443cA444cA445cA446cA447cA448cA449cA450cA450AcA451cA452cA453cA454cA
455cA456cA457cA457AcA458cA459cA460cA461cA462cA463cA464cA465cA466cA467cA468cA469cA470cA471cA472c
A473cA474cA475cA476cA477cA478cA479cA480cA481cA482cA483cA484cA485cA486cA487cA488cA489cA490cA491c
A492cA493cA494cA495cA496cA497cA501cA502cA503cA504cA505cA506cA507cA508cA509cA510cA511cA512cA513c
A514cA515cA516cA517cA518cA519cA520cA521cA522cA523cA524cA525cA526cA527cA528cA529cA530@16800aBAMU
M LETTER PHASE-A NGKUE MFONdGBIEE FONdPON MFON PIPAEMGBIEEfPIPAEMBAdNAA MFONdSHUENSHUETdTITA MF
ONdNZA MFONdSHINDA PA NJIdPON PA NJI PIPAEMGBIEEgPIPAEMBAdMAEMBGBIEEdTU MAEMBAdNGANGUdMAEMVEUXd
MANSUAEdMVEUAENGAMdSEUNYAMdNTOQPENdKEUKEUTNDAdNKINDIdSUUdNGKUENZEUMdLAPAQdLET KUTdNTAP MFAAdMAE
KEUPdPASHAEdGHEUAERAEdPAMSHAEdMON NGGEUAETdNZUN MEUTdU YUQ NAEdGHEUAEGHEUAEdNTAP NTAAdSISAdMGBA
SAdMEUNJOMNDEUQdMOOMPUQdKAFAdPA LEERAEWAdNDA LEERAEWAdPETdMAEMKPENdNIKAdPUPdTUAEPdLUAEPdSONJAMd
TEUTEUWENdMAENYIdKETdNDAANGGEUAETdKUOQdMOOMEUTdSHUMdLOMMAEdFIRIdROMdKPOQdSOQdMAP PIEETdSHIRAEdN
TAPdSHOQ NSHUT YUMdNYIT MONGKEUAEQdPAARAEdNKAARAEdUNKNOWNdNGGENdMAESIdNJAMdMBANYIdNYETdTEUAENdS
OTdPAAMdNSHIEEdMAEMdNYIdKAQdNSHAdVEEdLUdNENdNAQdMBAQcPHASE-B NSHUETdTU MAEMGBIEEdSIEEdSET TUdLO
M NTEUMdMBA MAELEEdKIEEMdYEURAEdMBAARAEdKAMdPEESHIdYAFU LEERAEWAdLAM NSHUT NYAMdNTIEE SHEUOQdND
U NJAAdGHEUGHEUAEMdPITdTU NSIEEdSHET NJAQdSHEUAEQTUdMFON TEUAEQdMBIT MBAAKETdNYI NTEUMdKEUPUQdG
HEUGHENdKEUYEUXdLAANAEdPARUMdVEUMdNGKINDI MVOPdNGGEU MBUdWUAETdSAKEUAEdTAAMdMEUQdNGGUOQeLARGEdM
FIYAQdSUEdMBEURIdMONTIEENdNYAEMAEdPUNGAAMdMEUT NGGEETdFEUXdMBUOQdFEEdKEUAEMdMA NJEUAENAeNJUQAdL
ETdNGGAAMdNSENdMAdKIQdNGOMcPHASE-C NGKUE MAEMBAdNZAdYUMdWANGKUOQdNGGENdNDEUAEREEdNGKAQdGHARAEdM
BEEKEETdGBAYIdNYIR MKPARAQ MEUNdNTU MBITdMBEUMdPIRIEENdNDOMBUdMBAA CABBAGE-TREEdKEUSHEUAEPdGHAP
dKEUKAQdYU MUOMAEdNZEUMdMBUEdNSEUAENdMBITdYEUQdKPARAQdKAAdSEUXdNDIDAdTAASHAEdNJUEQdTITA YUEdSUA
ETdNGGUAEN NYAMdVEUXdNANSANAQdMA KEUAERIdNTAAdNGGUONdLAPdMBIRIEENdMGBASAQdNTEUNGBAdTEUTEUXdNGGU
MdFUEdNDEUTdNSAdNSHAQdBUNGdVEUAEPENdMBERAEdRUdNJAEMdLAMdTITUAEPdNSUOT NGOMdNJEEEEdKETdNGGUdMAES
IdMBUAEMdLUdKUTdNJAMdNGOMdWUPdNGGUEETdNSOMdNTENdKUOP NKAARAEdNSUNdNDAMdMA NSIEEdYAAdNDAPdSHUEQd
SETFONdMBIdMAEMBAdMBANYIdKEUSEUXdMBEUXdKEUMdMBAA PICKETdYUWOQdNJEUXdMIEEdMUAEdSHIQdKEN LAWeFATI
GUEdNGAQdNAQdLIQdPINdPENdTETcPHASE-D MBUOdWAPdNJIdMFONdNJIEEdLIEEdNJEUTdNSHEEdNGGAAMAEdNYAMdWUA
ENdNGKUNdSHEEdNGKAPdKEUAETMEUNdTEUTdSHEUAEdNJAPdSUEdKETdYAEMMAEdKUOMdSAPdMFEUTdNDEUXdMALEERIdME
UTdSEUAEQdYENdNJEUAEMdKEUOT MBUAEdNGKEURIdTUdGHAAdNGKYEEdFEUFEUAETdNDEEdMGBOFUMdLEUAEPdNDONdMON
IdMGBEUNdPUUTdMGBIEEdMFOdLUMdNSIEEPdMBAAdKWAETdNYETdTEUAENdSOTdYUWOQdKEUMdRAEMdTEEEEdNGKEUAEQdM
FEUAEdNSIEETdKEUPdPIPdPEUTAEdNYUEdLETdNGGAAMdMFIEEdNGGWAENdYUOMdPAPdYUOPdNDAMdNTEUMdSUAEdKUNdNG
GEUXdNGKIEEdTUOTdMEUNdKUQdNSUMdTEUNdMAENJETdNGGAPdLEUMdNGGUOMdNSHUTdNJUEQdGHEUAEdKUdREN OLDdTAE
dTOQdNYIdRIIdLEEEEdMEEEEdMdSUUdMUdSHIIdSHEUXdKYEEdNUdSHUdNTEEdPEEdNIdSHOQdPUQdMVOPdLOQdREN MUCH
dTIdNTUUdMBAA SEVENdSAQdFAAcPHASE-E NDAPdTOONdMBEUMdLAPdVOMdLOONdPAAdSOMdRAQdNSHUOPdNDUNdPUAEdT
AMdNGKAdKPEUXdWUOdSEEdNGGEUAETdPAAMdTOOdKUOPdLOMdNSHIEEdNGOPdMAEMdNGKEUXdNGOQdNSHUEdRIMGBAdNJEU
XdPEEMdSAAdNGGURAEdMGBAdGHEUXdNGKEUAEMdNJAEMLIdMAPdLOOTdNGGEEEEdNDIQdTAEN NTEUMdSETdPUMdNDAA SO
FTNESSdNGGUAESHAE NYAMdYIEEdGHEUNdTUAEdYEUAEdPOdTUMAEdKEUAEdSUAENdTEUAEQdVEUAEdWEUXdLAAMdPUdTAA
QdGHAAMAEdNGEUREUTdSHEUAEQdMGBENdMBEEdNZAQdNKOMdGBETdTUMdKUETdYAPdNYI CLEAVERdYITdMFEUQdNDIAQdP
IEEQdYUEQdLEUAEMdFUEdGBEUXdNGKUPdKETdMAEdNGKAAMIdGHETdFAdNTUMdPEUTdYEUMdNGGEUAEdNYI BETWEENdNZU
QdPOONdMIEEdFUETdNAEdMUAEdGHEUAEdFU IdMVIdPUAQdNGKUMdKUTdPIETdNTAPdYEUAETdNGGUPdPA PEOPLEdFU CA
LLdFOMdNJEEdAdTOQdOdIdLAQdPA PLURALdTAAdTAQdNDAA MY HOUSEdSHIQdYEUXdNGUAEdYUAENdYOQ SWIMMINGeCO
VERdYUQdYUNdKEUXdPEUXdNJEE EPOCHdPUEdWUEdFEEdVEEdLUdMIdREUXdRAEdNGUAETdNGAdSHOdSHOQdFU REMEDYdN
AdPIdLOQdKOdMENdMAdMAQdTEUdKIdMONdTENdFAQdGHOMcPHASE-F KAdUdKUdEEdREEdTAEdNYIdLAdRIIdRIEEdMEEEE
dTAAdNDAAdNJAEMdMdSUUdSHIIdSIdSEUXdKYEEdKETdNUAEdNUdNJUAEdYOQdSHUdYAdNSHAdPEUXdNTEEdWUEdPEEdRUd
NIdREUXdKENdNGKWAENdNGGAdSHOdPUAEdFOMdWAdLIdLOQdKOdMBENdRENdMAdMOdMBAAdTETdKPAdSAMBAdVUEQ@16A40
aMRO LETTER TAcNGIcYOcMIMcBAcDAcAcPHIcKHAIcHAOcDAIcCHUcKEAAEcOLcMAEMcNINcPAcOOcOcROcSHIcTHEAcEA
cWAcEcKOcLANcLAcHAIcRIcTEK@16A60bDIGIT ZEROcONEcTWOcTHREEcFOURcFIVEcSIXcSEVENcEIGHTcNINE@16A6Eb
DANDAbDOUBLE DANDAaTANGSA LETTER OZcOCcOQcOXcAZcACcAQcAXcVZcVCcVQcVXcEZcECcEQcEXcIZcICcIQcIXcUZ
cUCcUQcUXcAWZcAWCcAWQcAWXcUIZcUICcUIQcUIXcFINAL NGcLONG UEXcSHORT UEZdAWXcUECcUEZcUEQcUEXcUIUZc
UIUCcUIUQcUIUXcMZcMCcMQcMXcKAcKHAcGAcNGAcSAcYAcWAcPAcNYAcPHAcBAcMAcNAcHAcLAcHTAcTAcDAcRAcNHAcSH
AcCAcTSAcGHAcHTTAcTHAcXAcFAcDHAcCHAcZA@16AC0bDIGIT ZEROcONEcTWOcTHREEcFOURcFIVEcSIXcSEVENcEIGHT
cNINE@16AD0aBASSA VAH LETTER ENNIdKAdSEdFAdMBEdYIEdGAHdDHIIdKPAHdJOdHWAHdWAdZOdGBUdDOdCEdUWUdTO
dBAdVUdYEINdPAdWADDAdAdOdOOdUdEEdEdI@16AF0cCOMBINING HIGH TONEdLOW TONEdMID TONEdLOW-MID TONEdH
IGH-LOW TONEcFULL STOP@16B00aPAHAWH HMONG VOWEL KEEBdKEEVdKIBdKIVdKAUBdKAUVdKUBdKUVdKEBdKEVdKAI
BdKAIVdKOOBdKOOVdKAWBdKAWVdKUABdKUAVdKOBdKOVdKIABdKIAVdKABdKAVdKWBdKWVdKAABdKAAVcCONSONANT VAUd
NTSAUdLAUdHAUdNLAUdRAUdNKAUdQHAUdYAUdHLAUdMAUdCHAUdNCHAUdHNAUdPLHAUdNTHAUdNAUdAUdXAUdCAUcMARK C
IM TUBeSOeKESeKHAVeSUAMeHOMeTAUMcSIGN VOS THOMeTSHAB CEEBdCIM CHEEMdVOS THIABeFEEMdXYEEM NTXIVe
RHOeTOVeFAIBdVOS SEEVdMEEJ SUABdVOS NRUAdIB YAMdXAUSdCIM TSOV ROG@16B50cDIGIT ZEROdONEdTWOdTHRE
EdFOURdFIVEdSIXdSEVENdEIGHTdNINE@16B5BcNUMBER TENSdHUNDREDSdTEN THOUSANDSdMILLIONSdHUNDRED MILL
IONSdTEN BILLIONSdTRILLIONS@16B63cSIGN VOS LUBdXYOOdHLIdTHIRD-STAGE HLIdZWJ THAJdHNUBdNQIGdXIAB
dNTUJdAVdTXHEEJ CEEVdMEEJ TSEEBdTAUdLOSdMUSdCIM HAIS LUS NTOG NTOGeCUAM TSHOOJeTXWVfCHWVePUB DA
WBeNRES TOS@16B7DcCLAN SIGN TSHEEJeYEEGeLISeLAUJeXYOOJeKOOeHAWJeMUASeTHOJeTSABePHABeKHABeHAMeVA
JeFAJeYAJeTSWBeKWMeVWJ@16E40aMEDEFAIDRIN CAPITAL LETTER MdSdVdWdATIUdZdKPdPdTdGdFdIdKdAdJdEdBdC
dUdYUdLdQdHP@16E56dHdNY@16E57dNGdXdDdOEdNdRdOdAIdYbSMALL LETTER MdSdVdWdATIUdZdKPdPdTdGdFdIdKdA
dJdEdBdCdUdYUdLdQdHP@16E76dHdNY@16E77dNGdXdDdOEdNdRdOdAIdYbDIGIT ZEROcONEcTWOcTHREEcFOURcFIVEcS
IXcSEVENcEIGHTcNINEbNUMBER TENcELEVENcTWELVEcTHIRTEENcFOURTEENcFIFTEENcSIXTEENcSEVENTEENcEIGHTE
ENcNINETEENbDIGIT ONE ALTERNATE FORMcTWO ALTERNATE FORMcTHREE ALTERNATE FORMbCOMMAbFULL STOPbSY
MBOL AIVAbEXCLAMATION OH@16F00aMIAO LETTER PAcBAcYI PAcPLAcMAcMHAcARCHAIC MAcFAcVAcVFAcTAcDAcY
I TTAdTAcTTAcDDAcNAcNHAcYI NNAcARCHAIC NAcNNAcNNHAcLAcLYAcLHAcLHYAcTLHAcDLHAcTLHYAcDLHYAcKAcGAc
YI KAcQAcQGAcNGAcNGHAcARCHAIC NGAcHAcXAcGHAcGHHAcTSSAcDZZAcNYAcNYHAcTSHAcDZHAcYI TSHAdDZHAcREFO
RMED TSHAcSHAcSSAcZHAcZSHAcTSAcDZAcYI TSAcSAcZAcZSAcZZAcZZSAcARCHAIC ZZAcZZYAcZZSYAcWAcAHcHHAcB
RIcSYIcDZYIcTEcTSEcRTE@16F4FbSIGN CONSONANT MODIFIER BARbLETTER NASALIZATIONbSIGN ASPIRATIONcRE
FORMED VOICINGdASPIRATIONbVOWEL SIGN AdAAdAHHdANdANGdOdOOdWOdWdEdENdENGdOEYdIdIAdIANdIANGdIOdIE
dIIdIUdINGdUdUAdUANdUANGdUUdUEIdUNGdYdYIdAEdAEEdERRdROUNDED ERRdERdROUNDED ERdAIdEIdAUdOUdNdNGd
UOGdYUIdOGdOERdVWdIGdEAdIONGdUI@16F8FbTONE RIGHTcTOP RIGHTcABOVEcBELOWbLETTER TONE-2cTONE-3cTON
E-4cTONE-5cTONE-6cTONE-7cTONE-8cREFORMED TONE-1dTONE-2dTONE-4dTONE-5dTONE-6dTONE-8@16FE0aTANGU
T ITERATION MARKaNUSHU ITERATION MARKaOLD CHINESE HOOK MARKcITERATION MARKaKHITAN SMALL SCRIP
T FILLER@16FF0aVIETNAMESE ALTERNATE READING MARK CAeNHAY@18800aTANGUT COMPONENT-001bCOMPONENT-0
02bCOMPONENT-003bCOMPONENT-004bCOMPONENT-005bCOMPONENT-006bCOMPONENT-007bCOMPONENT-008bCOMPONEN
T-009bCOMPONENT-010bCOMPONENT-011bCOMPONENT-012bCOMPONENT-013bCOMPONENT-014bCOMPONENT-015bCOMPO
NENT-016bCOMPONENT-017bCOMPONENT-018bCOMPONENT-019bCOMPONENT-020bCOMPONENT-021bCOMPONENT-022bCO
MPONENT-023bCOMPONENT-024bCOMPONENT-025bCOMPONENT-026bCOMPONENT-027bCOMPONENT-028bCOMPONENT-029
bCOMPONENT-030bCOMPONENT-031bCOMPONENT-032bCOMPONENT-033bCOMPONENT-034bCOMPONENT-035bCOMPONENT-
036bCOMPONENT-037bCOMPONENT-038bCOMPONENT-039bCOMPONENT-040bCOMPONENT-041bCOMPONENT-042bCOMPONE
NT-043bCOMPONENT-044bCOMPONENT-045bCOMPONENT-046bCOMPONENT-047bCOMPONENT-048bCOMPONENT-049bCOMP
ONENT-050bCOMPONENT-051bCOMPONENT-052bCOMPONENT-053bCOMPONENT-054bCOMPONENT-055bCOMPONENT-056bC
OMPONENT-057bCOMPONENT-058bCOMPONENT-059bCOMPONENT-060bCOMPONENT-061bCOMPONENT-062bCOMPONENT-06
3bCOMPONENT-064bCOMPONENT-065bCOMPONENT-066bCOMPONENT-067bCOMPONENT-068bCOMPONENT-069bCOMPONENT
-070bCOMPONENT-071bCOMPONENT-072bCOMPONENT-073bCOMPONENT-074bCOMPONENT-075bCOMPONENT-076bCOMPON
ENT-077bCOMPONENT-078bCOMPONENT-079bCOMPONENT-080bCOMPONENT-081bCOMPONENT-082bCOMPONENT-083bCOM
PONENT-084bCOMPONENT-085bCOMPONENT-086bCOMPONENT-087bCOMPONENT-088bCOMPONENT-089bCOMPONENT-090b
COMPONENT-091bCOMPONENT-092bCOMPONENT-093bCOMPONENT-094bCOMPONENT-095bCOMPONENT-096bCOMPONENT-0
97bCOMPONENT-098bCOMPONENT-099bCOMPONENT-100bCOMPONENT-101bCOMPONENT-102bCOMPONENT-103bCOMPONEN
T-104bCOMPONENT-105bCOMPONENT-106bCOMPONENT-107bCOMPONENT-108bCOMPONENT-109bCOMPONENT-110bCOMPO
NENT-111bCOMPONENT-112bCOMPONENT-113bCOMPONENT-114bCOMPONENT-115bCOMPONENT-116bCOMPONENT-117bCO
MPONENT-118bCOMPONENT-119bCOMPONENT-120bCOMPONENT-121bCOMPONENT-122bCOMPONENT-123bCOMPONENT-124
bCOMPONENT-125bCOMPONENT-126bCOMPONENT-127bCOMPONENT-128bCOMPONENT-129bCOMPONENT-130bCOMPONENT-
131bCOMPONENT-132bCOMPONENT-133bCOMPONENT-134bCOMPONENT-135bCOMPONENT-136bCOMPONENT-137bCOMPONE
NT-138bCOMPONENT-139bCOMPONENT-140bCOMPONENT-141bCOMPONENT-142bCOMPONENT-143bCOMPONENT-144bCOMP
ONENT-145bCOMPONENT-146bCOMPONENT-147bCOMPONENT-148bCOMPONENT-149bCOMPONENT-150bCOMPONENT-151bC
OMPONENT-152bCOMPONENT-153bCOMPONENT-154bCOMPONENT-155bCOMPONENT-156bCOMPONENT-157bCOMPONENT-15
8bCOMPONENT-159bCOMPONENT-160bCOMPONENT-161bCOMPONENT-162bCOMPONENT-163bCOMPONENT-164bCOMPONENT
-165bCOMPONENT-166bCOMPONENT-167bCOMPONENT-168bCOMPONENT-169bCOMPONENT-170bCOMPONENT-171bCOMPON
ENT-172bCOMPONENT-173bCOMPONENT-174bCOMPONENT-175bCOMPONENT-176bCOMPONENT-177bCOMPONENT-178bCOM
PONENT-179bCOMPONENT-180bCOMPONENT-181bCOMPONENT-182bCOMPONENT-183bCOMPONENT-184bCOMPONENT-185b
COMPONENT-186bCOMPONENT-187bCOMPONENT-188bCOMPONENT-189bCOMPONENT-190bCOMPONENT-191bCOMPONENT-1
92bCOMPONENT-193bCOMPONENT-194bCOMPONENT-195bCOMPONENT-196bCOMPONENT-197bCOMPONENT-198bCOMPONEN
T-199bCOMPONENT-200bCOMPONENT-201bCOMPONENT-202bCOMPONENT-203bCOMPONENT-204bCOMPONENT-205bCOMPO
NENT-206bCOMPONENT-207bCOMPONENT-208bCOMPONENT-209bCOMPONENT-210bCOMPONENT-211bCOMPONENT-212bCO
MPONENT-213bCOMPONENT-214bCOMPONENT-215bCOMPONENT-216bCOMPONENT-217bCOMPONENT-218bCOMPONENT-219
bCOMPONENT-220bCOMPONENT-221bCOMPONENT-222bCOMPONENT-223bCOMPONENT-224bCOMPONENT-225bCOMPONENT-
226bCOMPONENT-227bCOMPONENT-228bCOMPONENT-229bCOMPONENT-230bCOMPONENT-231bCOMPONENT-232bCOMPONE
NT-233bCOMPONENT-234bCOMPONENT-235bCOMPONENT-236bCOMPONENT-237bCOMPONENT-238bCOMPONENT-239bCOMP
ONENT-240bCOMPONENT-241bCOMPONENT-242bCOMPONENT-243bCOMPONENT-244bCOMPONENT-245bCOMPONENT-246bC
OMPONENT-247bCOMPONENT-248bCOMPONENT-249bCOMPONENT-250bCOMPONENT-251bCOMPONENT-252bCOMPONENT-25
3bCOMPONENT-254bCOMPONENT-255bCOMPONENT-256bCOMPONENT-257bCOMPONENT-258bCOMPONENT-259bCOMPONENT
-260bCOMPONENT-261bCOMPONENT-262bCOMPONENT-263bCOMPONENT-264bCOMPONENT-265bCOMPONENT-266bCOMPON
ENT-267bCOMPONENT-268bCOMPONENT-269bCOMPONENT-270bCOMPONENT-271bCOMPONENT-272bCOMPONENT-273bCOM
PONENT-274bCOMPONENT-275bCOMPONENT-276bCOMPONENT-277bCOMPONENT-278bCOMPONENT-279bCOMPONENT-280b
COMPONENT-281bCOMPONENT-282bCOMPONENT-283bCOMPONENT-284bCOMPONENT-285bCOMPONENT-286bCOMPONENT-2
87bCOMPONENT-288bCOMPONENT-289bCOMPONENT-290bCOMPONENT-291bCOMPONENT-292bCOMPONENT-293bCOMPONEN
T-294bCOMPONENT-295bCOMPONENT-296bCOMPONENT-297bCOMPONENT-298bCOMPONENT-299bCOMPONENT-300bCOMPO
NENT-301bCOMPONENT-302bCOMPONENT-303bCOMPONENT-304bCOMPONENT-305bCOMPONENT-306bCOMPONENT-307bCO
MPONENT-308bCOMPONENT-309bCOMPONENT-310bCOMPONENT-311bCOMPONENT-312bCOMPONENT-313bCOMPONENT-314
bCOMPONENT-315bCOMPONENT-316bCOMPONENT-317bCOMPONENT-318bCOMPONENT-319bCOMPONENT-320bCOMPONENT-
321bCOMPONENT-322bCOMPONENT-323bCOMPONENT-324bCOMPONENT-325bCOMPONENT-326bCOMPONENT-327bCOMPONE
NT-328bCOMPONENT-329bCOMPONENT-330bCOMPONENT-331bCOMPONENT-332bCOMPONENT-333bCOMPONENT-334bCOMP
ONENT-335bCOMPONENT-336bCOMPONENT-337bCOMPONENT-338bCOMPONENT-339bCOMPONENT-340bCOMPONENT-341bC
OMPONENT-342bCOMPONENT-343bCOMPONENT-344bCOMPONENT-345bCOMPONENT-346bCOMPONENT-347bCOMPONENT-34
8bCOMPONENT-349bCOMPONENT-350bCOMPONENT-351bCOMPONENT-352bCOMPONENT-353bCOMPONENT-354bCOMPONENT
-355bCOMPONENT-356bCOMPONENT-357bCOMPONENT-358bCOMPONENT-359bCOMPONENT-360bCOMPONENT-361bCOMPON
ENT-362bCOMPONENT-363bCOMPONENT-364bCOMPONENT-365bCOMPONENT-366bCOMPONENT-367bCOMPONENT-368bCOM
PONENT-369bCOMPONENT-370bCOMPONENT-371bCOMPONENT-372bCOMPONENT-373bCOMPONENT-374bCOMPONENT-375b
COMPONENT-376bCOMPONENT-377bCOMPONENT-378bCOMPONENT-379bCOMPONENT-380bCOMPONENT-381bCOMPONENT-3
82bCOMPONENT-383bCOMPONENT-384bCOMPONENT-385bCOMPONENT-386bCOMPONENT-387bCOMPONENT-388bCOMPONEN
T-389bCOMPONENT-390bCOMPONENT-391bCOMPONENT-392bCOMPONENT-393bCOMPONENT-394bCOMPONENT-395bCOMPO
NENT-396bCOMPONENT-397bCOMPONENT-398bCOMPONENT-399bCOMPONENT-400bCOMPONENT-401bCOMPONENT-402bCO
MPONENT-403bCOMPONENT-404bCOMPONENT-405bCOMPONENT-406bCOMPONENT-407bCOMPONENT-408bCOMPONENT-409
bCOMPONENT-410bCOMPONENT-411bCOMPONENT-412bCOMPONENT-413bCOMPONENT-414bCOMPONENT-415bCOMPONENT-
416bCOMPONENT-417bCOMPONENT-418bCOMPONENT-419bCOMPONENT-420bCOMPONENT-421bCOMPONENT-422bCOMPONE
NT-423bCOMPONENT-424bCOMPONENT-425bCOMPONENT-426bCOMPONENT-427bCOMPONENT-428bCOMPONENT-429bCOMP
ONENT-430bCOMPONENT-431bCOMPONENT-432bCOMPONENT-433bCOMPONENT-434bCOMPONENT-435bCOMPONENT-436bC
OMPONENT-437bCOMPONENT-438bCOMPONENT-439bCOMPONENT-440bCOMPONENT-441bCOMPONENT-442bCOMPONENT-44
3bCOMPONENT-444bCOMPONENT-445bCOMPONENT-446bCOMPONENT-447bCOMPONENT-448bCOMPONENT-449bCOMPONENT
-450bCOMPONENT-451bCOMPONENT-452bCOMPONENT-453bCOMPONENT-454bCOMPONENT-455bCOMPONENT-456bCOMPON
ENT-457bCOMPONENT-458bCOMPONENT-459bCOMPONENT-460bCOMPONENT-461bCOMPONENT-462bCOMPONENT-463bCOM
PONENT-464bCOMPONENT-465bCOMPONENT-466bCOMPONENT-467bCOMPONENT-468bCOMPONENT-469bCOMPONENT-470b
COMPONENT-471bCOMPONENT-472bCOMPONENT-473bCOMPONENT-474bCOMPONENT-475bCOMPONENT-476bCOMPONENT-4
77bCOMPONENT-478bCOMPONENT-479bCOMPONENT-480bCOMPONENT-481bCOMPONENT-482bCOMPONENT-483bCOMPONEN
T-484bCOMPONENT-485bCOMPONENT-486bCOMPONENT-487bCOMPONENT-488bCOMPONENT-489bCOMPONENT-490bCOMPO
NENT-491bCOMPONENT-492bCOMPONENT-493bCOMPONENT-494bCOMPONENT-495bCOMPONENT-496bCOMPONENT-497bCO
MPONENT-498bCOMPONENT-499bCOMPONENT-500bCOMPONENT-501bCOMPONENT-502bCOMPONENT-503bCOMPONENT-504
bCOMPONENT-505bCOMPONENT-506bCOMPONENT-507bCOMPONENT-508bCOMPONENT-509bCOMPONENT-510bCOMPONENT-
511bCOMPONENT-512bCOMPONENT-513bCOMPONENT-514bCOMPONENT-515bCOMPONENT-516bCOMPONENT-517bCOMPONE
NT-518bCOMPONENT-519bCOMPONENT-520bCOMPONENT-521bCOMPONENT-522bCOMPONENT-523bCOMPONENT-524bCOMP
ONENT-525bCOMPONENT-526bCOMPONENT-527bCOMPONENT-528bCOMPONENT-529bCOMPONENT-530bCOMPONENT-531bC
OMPONENT-532bCOMPONENT-533bCOMPONENT-534bCOMPONENT-535bCOMPONENT-536bCOMPONENT-537bCOMPONENT-53
8bCOMPONENT-539bCOMPONENT-540bCOMPONENT-541bCOMPONENT-542bCOMPONENT-543bCOMPONENT-544bCOMPONENT
-545bCOMPONENT-546bCOMPONENT-547bCOMPONENT-548bCOMPONENT-549bCOMPONENT-550bCOMPONENT-551bCOMPON
ENT-552bCOMPONENT-553bCOMPONENT-554bCOMPONENT-555bCOMPONENT-556bCOMPONENT-557bCOMPONENT-558bCOM
PONENT-559bCOMPONENT-560bCOMPONENT-561bCOMPONENT-562bCOMPONENT-563bCOMPONENT-564bCOMPONENT-565b
COMPONENT-566bCOMPONENT-567bCOMPONENT-568bCOMPONENT-569bCOMPONENT-570bCOMPONENT-571bCOMPONENT-5
72bCOMPONENT-573bCOMPONENT-574bCOMPONENT-575bCOMPONENT-576bCOMPONENT-577bCOMPONENT-578bCOMPONEN
T-579bCOMPONENT-580bCOMPONENT-581bCOMPONENT-582bCOMPONENT-583bCOMPONENT-584bCOMPONENT-585bCOMPO
NENT-586bCOMPONENT-587bCOMPONENT-588bCOMPONENT-589bCOMPONENT-590bCOMPONENT-591bCOMPONENT-592bCO
MPONENT-593bCOMPONENT-594bCOMPONENT-595bCOMPONENT-596bCOMPONENT-597bCOMPONENT-598bCOMPONENT-599
bCOMPONENT-600bCOMPONENT-601bCOMPONENT-602bCOMPONENT-603bCOMPONENT-604bCOMPONENT-605bCOMPONENT-
606bCOMPONENT-607bCOMPONENT-608bCOMPONENT-609bCOMPONENT-610bCOMPONENT-611bCOMPONENT-612bCOMPONE
NT-613bCOMPONENT-614bCOMPONENT-615bCOMPONENT-616bCOMPONENT-617bCOMPONENT-618bCOMPONENT-619bCOMP
ONENT-620bCOMPONENT-621bCOMPONENT-622bCOMPONENT-623bCOMPONENT-624bCOMPONENT-625bCOMPONENT-626bC
OMPONENT-627bCOMPONENT-628bCOMPONENT-629bCOMPONENT-630bCOMPONENT-631bCOMPONENT-632bCOMPONENT-63
3bCOMPONENT-634bCOMPONENT-635bCOMPONENT-636bCOMPONENT-637bCOMPONENT-638bCOMPONENT-639bCOMPONENT
-640bCOMPONENT-641bCOMPONENT-642bCOMPONENT-643bCOMPONENT-644bCOMPONENT-645bCOMPONENT-646bCOMPON
ENT-647bCOMPONENT-648bCOMPONENT-649bCOMPONENT-650bCOMPONENT-651bCOMPONENT-652bCOMPONENT-653bCOM
PONENT-654bCOMPONENT-655bCOMPONENT-656bCOMPONENT-657bCOMPONENT-658bCOMPONENT-659bCOMPONENT-660b
COMPONENT-661bCOMPONENT-662bCOMPONENT-663bCOMPONENT-664bCOMPONENT-665bCOMPONENT-666bCOMPONENT-6
67bCOMPONENT-668bCOMPONENT-669bCOMPONENT-670bCOMPONENT-671bCOMPONENT-672bCOMPONENT-673bCOMPONEN
T-674bCOMPONENT-675bCOMPONENT-676bCOMPONENT-677bCOMPONENT-678bCOMPONENT-679bCOMPONENT-680bCOMPO
NENT-681bCOMPONENT-682bCOMPONENT-683bCOMPONENT-684bCOMPONENT-685bCOMPONENT-686bCOMPONENT-687bCO
MPONENT-688bCOMPONENT-689bCOMPONENT-690bCOMPONENT-691bCOMPONENT-692bCOMPONENT-693bCOMPONENT-694
bCOMPONENT-695bCOMPONENT-696bCOMPONENT-697bCOMPONENT-698bCOMPONENT-699bCOMPONENT-700bCOMPONENT-
701bCOMPONENT-702bCOMPONENT-703bCOMPONENT-704bCOMPONENT-705bCOMPONENT-706bCOMPONENT-707bCOMPONE
NT-708bCOMPONENT-709bCOMPONENT-710bCOMPONENT-711bCOMPONENT-712bCOMPONENT-713bCOMPONENT-714bCOMP
ONENT-715bCOMPONENT-716bCOMPONENT-717bCOMPONENT-718bCOMPONENT-719bCOMPONENT-720bCOMPONENT-721bC
OMPONENT-722bCOMPONENT-723bCOMPONENT-724bCOMPONENT-725bCOMPONENT-726bCOMPONENT-727bCOMPONENT-72
8bCOMPONENT-729bCOMPONENT-730bCOMPONENT-731bCOMPONENT-732bCOMPONENT-733bCOMPONENT-734bCOMPONENT
-735bCOMPONENT-736bCOMPONENT-737bCOMPONENT-738bCOMPONENT-739bCOMPONENT-740bCOMPONENT-741bCOMPON
ENT-742bCOMPONENT-743bCOMPONENT-744bCOMPONENT-745bCOMPONENT-746bCOMPONENT-747bCOMPONENT-748bCOM
PONENT-749bCOMPONENT-750bCOMPONENT-751bCOMPONENT-752bCOMPONENT-753bCOMPONENT-754bCOMPONENT-755b
COMPONENT-756bCOMPONENT-757bCOMPONENT-758bCOMPONENT-759bCOMPONENT-760bCOMPONENT-761bCOMPONENT-7
62bCOMPONENT-763bCOMPONENT-764bCOMPONENT-765bCOMPONENT-766bCOMPONENT-767bCOMPONENT-768@1AFF0aKA
TAKANA LETTER MINNAN TONE-2dTONE-3dTONE-4dTONE-5@1AFF5dTONE-7dTONE-8dNASALIZED TONE-1eTONE-2eTO
NE-3eTONE-4eTONE-5@1AFFDeTONE-7eTONE-8@1B000cARCHAIC EaHIRAGANA LETTER ARCHAIC YE@1B001aHENTAIG
ANA LETTER E-1cA-1cA-2cA-3cA-WOcI-1cI-2cI-3cI-4cU-1cU-2cU-3cU-4cU-5cE-2cE-3cE-4cE-5cE-6cO-1cO-2
cO-3cKA-1cKA-2cKA-3cKA-4cKA-5cKA-6cKA-7cKA-8cKA-9cKA-10cKA-11cKA-KEcKI-1cKI-2cKI-3cKI-4cKI-5cKI
-6cKI-7cKI-8cKU-1cKU-2cKU-3cKU-4cKU-5cKU-6cKU-7cKE-1cKE-2cKE-3cKE-4cKE-5cKE-6cKO-1cKO-2cKO-3cKO
-KIcSA-1cSA-2cSA-3cSA-4cSA-5cSA-6cSA-7cSA-8cSI-1cSI-2cSI-3cSI-4cSI-5cSI-6cSU-1cSU-2cSU-3cSU-4cS
U-5cSU-6cSU-7cSU-8cSE-1cSE-2cSE-3cSE-4cSE-5cSO-1cSO-2cSO-3cSO-4cSO-5cSO-6cSO-7cTA-1cTA-2cTA-3cT
A-4cTI-1cTI-2cTI-3cTI-4cTI-5cTI-6cTI-7cTU-1cTU-2cTU-3cTU-4cTU-TOcTE-1cTE-2cTE-3cTE-4cTE-5cTE-6c
TE-7cTE-8cTE-9cTO-1cTO-2cTO-3cTO-4cTO-5cTO-6cTO-RAcNA-1cNA-2cNA-3cNA-4cNA-5cNA-6cNA-7cNA-8cNA-9
cNI-1cNI-2cNI-3cNI-4cNI-5cNI-6cNI-7cNI-TEcNU-1cNU-2cNU-3cNE-1cNE-2cNE-3cNE-4cNE-5cNE-6cNE-KOcNO
-1cNO-2cNO-3cNO-4cNO-5cHA-1cHA-2cHA-3cHA-4cHA-5cHA-6cHA-7cHA-8cHA-9cHA-10cHA-11cHI-1cHI-2cHI-3c
HI-4cHI-5cHI-6cHI-7cHU-1cHU-2cHU-3cHE-1cHE-2cHE-3cHE-4cHE-5cHE-6cHE-7cHO-1cHO-2cHO-3cHO-4cHO-5c
HO-6cHO-7cHO-8cMA-1cMA-2cMA-3cMA-4cMA-5cMA-6cMA-7cMI-1cMI-2cMI-3cMI-4cMI-5cMI-6cMI-7cMU-1cMU-2c
MU-3cMU-4cME-1cME-2cME-MAcMO-1cMO-2cMO-3cMO-4cMO-5cMO-6cYA-1cYA-2cYA-3cYA-4cYA-5cYA-YOcYU-1cYU-
2cYU-3cYU-4cYO-1cYO-2cYO-3cYO-4cYO-5cYO-6cRA-1cRA-2cRA-3cRA-4cRI-1cRI-2cRI-3cRI-4cRI-5cRI-6cRI-
7cRU-1cRU-2cRU-3cRU-4cRU-5cRU-6cRE-1cRE-2cRE-3cRE-4cRO-1cRO-2cRO-3cRO-4cRO-5cRO-6cWA-1cWA-2cWA-
3cWA-4cWA-5cWI-1cWI-2cWI-3cWI-4cWI-5cWE-1cWE-2cWE-3cWE-4cWO-1cWO-2cWO-3cWO-4cWO-5cWO-6cWO-7cN-M
U-MO-1cN-MU-MO-2aHIRAGANA LETTER ARCHAIC WUaKATAKANA LETTER ARCHAIC YIdYEdWU@1B150aHIRAGANA LET
TER SMALL WIdWEdWO@1B164aKATAKANA LETTER SMALL WIdWEdWOdN@1BC00aDUPLOYAN LETTER HcXcPcTcFcKcLcB
cDcVcGcRcP NcD ScF NcK McR ScTHcSLOAN DHcDHcKKcSLOAN JcHLcLHcRHcMcNcJcScM NcN McJ McS JcM WIT
H DOTcN WITH DOTcJ WITH DOTeDOTS INSIDE AND ABOVEcS WITH DOTfBELOWcM ScN ScJ ScS ScM N ScN M Sc
J M ScS J ScJ S WITH DOTdNeScS TeRdPeRcT SdR ScWcWHcW RcS NdMcK R ScG R ScS KeRcAcSLOAN OWcOAcO
cAOUcIcEcIEcSHORT IcUIcEEcSLOAN EHcROMANIAN IcSLOAN EEcLONG IcYEcUcEUcXWcU NcLONG UcROMANIAN Uc
UHcSLOAN UcOOHcOWcOUcWAcWOcWIcWEIcWOWcNASAL UdOdIdAcPERNIN ANdAMcSLOAN ENdANdONcVOCALIC M@1BC70
bAFFIX LEFT HORIZONTAL SECANTcMID HORIZONTAL SECANTcRIGHT HORIZONTAL SECANTcLOW VERTICAL SECANT
cMID VERTICAL SECANTcHIGH VERTICAL SECANTcATTACHED SECANTdLEFT-TO-RIGHT SECANTdTANGENTdTAILdE H
OOKdI HOOKdTANGENT HOOK@1BC80cHIGH ACUTEdTIGHT ACUTEdGRAVEdLONG GRAVEdDOTdCIRCLEdLINEdWAVEdVERT
ICAL@1BC90cLOW ACUTEdTIGHT ACUTEdGRAVEdLONG GRAVEdDOTdCIRCLEdLINEdWAVEdVERTICALdARROW@1BC9CbSIG
N O WITH CROSSbTHICK LETTER SELECTORbDOUBLE MARKbPUNCTUATION CHINOOK FULL STOPaSHORTHAND FORMA
T LETTER OVERLAPcCONTINUING OVERLAPcDOWN STEPcUP STEP@1CF00aZNAMENNY COMBINING MARK GORAZDO NIZ
KO S KRYZHEM ON LEFTdNIZKO S KRYZHEM ON LEFTdTSATA ON LEFTdGORAZDO NIZKO ON LEFTdNIZKO ON LEFTd
SREDNE ON LEFTdMALO POVYSHE ON LEFTdPOVYSHE ON LEFTdVYSOKO ON LEFTdMALO POVYSHE S KHOKHLOM ON L
EFTdPOVYSHE S KHOKHLOM ON LEFTdVYSOKO S KHOKHLOM ON LEFTdGORAZDO NIZKO S KRYZHEM ON RIGHTdNIZK
O S KRYZHEM ON RIGHTdTSATA ON RIGHTdGORAZDO NIZKO ON RIGHTdNIZKO ON RIGHTdSREDNE ON RIGHTdMAL
O POVYSHE ON RIGHTdPOVYSHE ON RIGHTdVYSOKO ON RIGHTdMALO POVYSHE S KHOKHLOM ON RIGHTdPOVYSH
E S KHOKHLOM ON RIGHTdVYSOKO S KHOKHLOM ON RIGHTdTSATA S KRYZHEMdMALO POVYSHE S KRYZHEMdSTRANN
O MALO POVYSHEdPOVYSHE S KRYZHEMeSTRANNOdVYSOKO S KRYZHEMdMALO POVYSHE STRANNOdGORAZDO VYSOKOdZ
ELOdONdRAVNOdTIKHAYAdBORZAYAdUDARKAdPODVERTKAdLOMKAdKUPNAYAdKACHKAdZEVOKdSKOBAdRAZSEKAdKRYZH O
N LEFT@1CF30cTONAL RANGE MARK MRACHNOfSVETLOfTRESVETLOcMARK ZADERZHKAdDEMESTVENNY ZADERZHKAdOTS
ECHKAdPODCHASHIEeWITH VERTICAL STROKEdCHASHKAePOLNAYAdOBLACHKOdSOROCHYA NOZHKAdTOCHKAdDVOETOCHI
EcATTACHING VERTICAL OMETcMARK CURVED OMETdKRYZHcLOWER TONAL RANGE INDICATORbPRIZNAK MODIFIER L
EVEL-2dLEVEL-3dDIRECTION FLIPdKRYZHdROG@1CF50bNEUME KRYUKdTIKHYcPARAKLITcDVA V CHELNUcKLYUCHcZA
NOZHEKcSTOPITSAdS OCHKOMcPEREVODKAdNEPOSTOYANNAYAcSTOPITSA WITH SOROCHYA NOZHKAcCHELYUSTKAcPALK
AcZAPYATAYAcGOLUBCHIK BORZYdTIKHYdMRACHNYdSVETLYdTRESVETLYcVRAKHIYA PROSTAYAdMRACHNAYAdSVETLAYA
dTRESVETLAYAdKLYUCHEVAYA PROSTAYAeMRACHNAYAeSVETLAYAeTRESVETLAYAcDOUBLE ZAPYATAYAcREVERSED CHEL
YUSTKAcDERBITSAcKHAMILOcCHASHKAcPODCHASHIEcSKAMEYTSA MRACHNAYAdSVETLAYAdTRESVETLAYAdTIKHAYAcDEM
ESTVENNY KLYUCHcSKAMEYTSA KLYUCHEVAYA SVETLAYAdKLYUCHENEPOSTOYANNAYAdKLYUCHEVAYA TIKHAYAdDVOECH
ELNAYA PROSTAYAeSVETLAYAeNEPOSTOYANNAYAeKLYUCHEVAYAcSLOZHITIEdS ZAPYATOYdZAKRYTOEdS KRYZHEMcKRY
ZHcROGcFITAcKOBYLAcZMEYTSAcSTATYAdS ZAPYATOYeKRYZHEMeZAPYATOY I KRYZHEMeKRYZHEM I ZAPYATOYdZAKR
YTAYAeS ZAPYATOYdS ROGOMeDVUMYA ZAPYATYMIeZAPYATOY I PODCHASHIEMcPOLKULIZMYcSTATYA NEPOSTOYANNA
YAcSTRELA PROSTAYAdMRACHNOTIKHAYAdKRYZHEVAYAdPOLUPOVODNAYAdPOVODNAYAdNEPOSTOYANNAYAdKLYUCHEPOVO
DNAYAdKLYUCHENEPOSTOYANNAYAdTIKHAYA PUTNAYAdDVOECHELNAYAdDVOECHELNOKRYZHEVAYAdDVOECHELNOPOVODNA
YAdDVOECHELNAYA KLYUCHEVAYAdDVOECHELNOPOVODNAYA KLYUCHEVAYAdGROMNAYA WITH SINGLE ZAPYATAYAdGROM
OPOVODNAYA WITH SINGLE ZAPYATAYAdGROMNAYAdGROMOPOVODNAYAeWITH DOUBLE ZAPYATAYAdGROMOKRYZHEVAYAe
POVODNAYAcMECHIKdPOVODNYdKLYUCHEVOYdKLYUCHEPOVODNYdKLYUCHENEPOSTOYANNYcSTRELA TRYASOGLASNAYAdTR
YASOPOVODNAYAdTRYASOSTRELNAYAcOSOKAdSVETLAYAdTRESVETLAYAdKRYUKOVAYA SVETLAYAdKLYUCHEVAYA SVETLA
YAeNEPOSTOYANNAYAcSTRELA KRYUKOVAYAePOVODNAYAeGROMNAYA WITH SINGLE ZAPYATAYAeGROMOPOVODNAYA WIT
H SINGLE ZAPYATAYAeGROMNAYAeGROMOPOVODNAYAfWITH DOUBLE ZAPYATAYAeGROMOKRYZHEVAYAfPOVODNAYAeTRYA
SKAcKUFISMAcOBLAKOcDUDAcNEMKAcPAUK@1D000aBYZANTINE MUSICAL SYMBOL PSILIdDASEIAdPERISPOMENIdOXEI
A EKFONITIKONeDIPLIdVAREIA EKFONITIKONeDIPLIdKATHISTIdSYRMATIKIdPARAKLITIKIdYPOKRISISeDIPLIdKRE
MASTIdAPESO EKFONITIKONdEXO EKFONITIKONdTELEIAdKENTIMATAdAPOSTROFOSeDIPLIdSYNEVMAdTHITAdOLIGO
N ARCHAIONdGORGON ARCHAIONdPSILONdCHAMILONdVATHYdISON ARCHAIONdKENTIMA ARCHAIONdKENTIMATA ARCHA
IONdSAXIMATAdPARICHONdSTAVROS APODEXIAdOXEIAI ARCHAIONdVAREIAI ARCHAIONdAPODERMA ARCHAIONdAPOTH
EMAdKLASMAdREVMAdPIASMA ARCHAIONdTINAGMAdANATRICHISMAdSEISMAdSYNAGMA ARCHAIONeMETA STAVROUdOYRA
NISMA ARCHAIONdTHEMAdLEMOIdDYOdTRIAdTESSERAdKRATIMATAdAPESO EXO NEOdFTHORA ARCHAIONdIMIFTHORAdT
ROMIKON ARCHAIONdKATAVA TROMIKONdPELASTONdPSIFISTONdKONTEVMAdCHOREVMA ARCHAIONdRAPISMAdPARAKALE
SMA ARCHAIONdPARAKLITIKI ARCHAIONdICHADINdNANAdPETASMAdKONTEVMA ALLOdTROMIKON ALLOdSTRAGGISMATA
dGRONTHISMATAdISON NEOdOLIGON NEOdOXEIA NEOdPETASTIdKOUFISMAdPETASTOKOUFISMAdKRATIMOKOUFISMAdPE
LASTON NEOdKENTIMATA NEO ANOdKENTIMA NEO ANOdYPSILIdAPOSTROFOS NEOdAPOSTROFOI SYNDESMOS NEOdYPO
RROIdKRATIMOYPORROONdELAFRONdCHAMILIdMIKRON ISONdVAREIA NEOdPIASMA NEOdPSIFISTON NEOdOMALONdANT
IKENOMAdLYGISMAdPARAKLITIKI NEOdPARAKALESMA NEOdETERON PARAKALESMAdKYLISMAdANTIKENOKYLISMAdTROM
IKON NEOdEKSTREPTONdSYNAGMA NEOdSYRMAdCHOREVMA NEOdEPEGERMAdSEISMA NEOdXIRON KLASMAdTROMIKOPSIF
ISTONdPSIFISTOLYGISMAdTROMIKOLYGISMAdTROMIKOPARAKALESMAdPSIFISTOPARAKALESMAdTROMIKOSYNAGMAdPSIF
ISTOSYNAGMAdGORGOSYNTHETONdARGOSYNTHETONdETERON ARGOSYNTHETONdOYRANISMA NEOdTHEMATISMOS ESOeEXO
dTHEMA APLOUNdTHES KAI APOTHESdKATAVASMAdENDOFONONdYFEN KATOeANOdSTAVROSdKLASMA ANOdDIPLI ARCHA
IONdKRATIMA ARCHAIONeALLOeNEOdAPODERMA NEOdAPLIdDIPLIdTRIPLIdTETRAPLIdKORONISdLEIMMA ENOS CHRON
OUeDYO CHRONONeTRION CHRONONeTESSARON CHRONONeIMISEOS CHRONOUdGORGON NEO ANOePARESTIGMENON ARIS
TERAfDEXIAdDIGORGONePARESTIGMENON ARISTERA KATOgANOfDEXIAdTRIGORGONdARGONdIMIDIARGONdDIARGONdAG
OGI POLI ARGIeARGOTERIeARGIeMETRIAeMESIeGORGIeGORGOTERIePOLI GORGIdMARTYRIA PROTOS ICHOSeALLI P
ROTOS ICHOSeDEYTEROS ICHOSeALLI DEYTEROS ICHOSeTRITOS ICHOSeTRIFONIASeTETARTOS ICHOSfLEGETOS IC
HOSeLEGETOS ICHOSePLAGIOS ICHOSdISAKIA TELOUS ICHIMATOSdAPOSTROFOI TELOUS ICHIMATOSdFANEROSIS T
ETRAFONIASeMONOFONIASeDIFONIASdMARTYRIA VARYS ICHOSePROTOVARYS ICHOSePLAGIOS TETARTOS ICHOSdGOR
THMIKON N APLOUNfDIPLOUNdENARXIS KAI FTHORA VOUdIMIFONONdIMIFTHORONdFTHORA ARCHAION DEYTEROU IC
HOUeDIATONIKI PAfNANAeNAOS ICHOSeDIATONIKI DIeSKLIRON DIATONON DIeDIATONIKI KEfZOfNI KATOgANOeM
ALAKON CHROMA DIFONIASgMONOFONIASdFHTORA SKLIRON CHROMA VASIS@1D0C5dFTHORA SKLIRON CHROMA VASIS
gSYNAFIeNENANOdCHROA ZYGOSeKLITONeSPATHIdFTHORA I YFESIS TETARTIMORIONeENARMONIOS ANTIFONIAdYFE
SIS TRITIMORIONdDIESIS TRITIMORIONeTETARTIMORIONeAPLI DYO DODEKATAeMONOGRAMMOS TESSERA DODEKATA
eDIGRAMMOS EX DODEKATAeTRIGRAMMOS OKTO DODEKATAdYFESIS APLI DYO DODEKATAeMONOGRAMMOS TESSERA DO
DEKATAeDIGRAMMOS EX DODEKATAeTRIGRAMMOS OKTO DODEKATAdGENIKI DIESISeYFESISdDIASTOLI APLI MIKRIf
MEGALIeDIPLIeTHESEOSdSIMANSIS THESEOSfDISIMOUfTRISIMOUfTETRASIMOUeARSEOSfDISIMOUfTRISIMOUfTETRA
SIMOUdDIGRAMMA GGdDIFTOGGOS OUdSTIGMAdARKTIKO PAeVOUeGAeDIeKEeZOeNIdKENTIMATA NEO MESOdKENTIM
A NEO MESOdKENTIMATA NEO KATOdKENTIMA NEO KATOdKLASMA KATOdGORGON NEO KATO@1D100aMUSICAL SYMBO
L SINGLE BARLINEcDOUBLE BARLINEcFINAL BARLINEcREVERSE FINAL BARLINEcDASHED BARLINEcSHORT BARLIN
EcLEFT REPEAT SIGNcRIGHT REPEAT SIGNcREPEAT DOTScDAL SEGNOcDA CAPOcSEGNOcCODAcREPEATED FIGURE-1
dFIGURE-2dFIGURE-3cFERMATAdBELOWcBREATH MARKcCAESURAcBRACEcBRACKETcONE-LINE STAFFcTWO-LINE STAF
FcTHREE-LINE STAFFcFOUR-LINE STAFFcFIVE-LINE STAFFcSIX-LINE STAFFcSIX-STRING FRETBOARDcFOUR-STR
ING FRETBOARDcG CLEFeOTTAVA ALTAfBASSAcC CLEFcF CLEFeOTTAVA ALTAfBASSAcDRUM CLEF-1dCLEF-2@1D129
cMULTIPLE MEASURE RESTcDOUBLE SHARPdFLATcFLAT UPdDOWNcNATURAL UPdDOWNcSHARP UPdDOWNcQUARTER TON
E SHARPeFLATcCOMMON TIMEcCUT TIMEcOTTAVA ALTAdBASSAcQUINDICESIMA ALTAdBASSAcMULTI RESTcWHOLE RE
STcHALF RESTcQUARTER RESTcEIGHTH RESTcSIXTEENTH RESTcTHIRTY-SECOND RESTcSIXTY-FOURTH RESTcONE H
UNDRED TWENTY-EIGHTH RESTcX NOTEHEADcPLUS NOTEHEADcCIRCLE X NOTEHEADcSQUARE NOTEHEAD WHITEeBLAC
KcTRIANGLE NOTEHEAD UP WHITEfBLACKeLEFT WHITEfBLACKeRIGHT WHITEfBLACKeDOWN WHITEfBLACKeUP RIGH
T WHITEgBLACKcMOON NOTEHEAD WHITEeBLACKcTRIANGLE-ROUND NOTEHEAD DOWN WHITEfBLACKcPARENTHESIS NO
TEHEADcVOID NOTEHEADcNOTEHEAD BLACKcNULL NOTEHEADcCLUSTER NOTEHEAD WHITEeBLACKcBREVEcWHOLE NOTE
cHALF NOTEcQUARTER NOTEcEIGHTH NOTEcSIXTEENTH NOTEcTHIRTY-SECOND NOTEcSIXTY-FOURTH NOTEcONE HUN
DRED TWENTY-EIGHTH NOTEcCOMBINING STEMdSPRECHGESANG STEMdTREMOLO-1dTREMOLO-2dTREMOLO-3cFINGERE
D TREMOLO-1dTREMOLO-2dTREMOLO-3cCOMBINING AUGMENTATION DOTdFLAG-1dFLAG-2dFLAG-3dFLAG-4dFLAG-5cB
EGIN BEAMcEND BEAMcBEGIN TIEcEND TIEcBEGIN SLURcEND SLURcBEGIN PHRASEcEND PHRASEcCOMBINING ACCE
NTdSTACCATOdTENUTOdSTACCATISSIMOdMARCATOdMARCATO-STACCATOdACCENT-STACCATOdLOUREcARPEGGIATO UPdD
OWNcCOMBINING DOITdRIPdFLIPdSMEARdBENDdDOUBLE TONGUEdTRIPLE TONGUEcRINFORZANDOcSUBITOcZcPIANOcM
EZZOcFORTEcCRESCENDOcDECRESCENDOcGRACE NOTE SLASHeNO SLASHcTRcTURNcINVERTED TURNcTURN SLASHdUPc
ORNAMENT STROKE-1dSTROKE-2dSTROKE-3dSTROKE-4dSTROKE-5dSTROKE-6dSTROKE-7dSTROKE-8dSTROKE-9dSTROK
E-10dSTROKE-11cHAUPTSTIMMEcNEBENSTIMMEcEND OF STIMMEcDEGREE SLASHcCOMBINING DOWN BOWdUP BOWdHAR
MONICdSNAP PIZZICATOcPEDAL MARKdUP MARKcHALF PEDAL MARKcGLISSANDO UPdDOWNcWITH FINGERNAILScDAMP
dALLcMAXIMAcLONGAcBREVIScSEMIBREVIS WHITEdBLACKcMINIMAdBLACKcSEMIMINIMA WHITEdBLACKcFUSA WHITEd
BLACKcLONGA PERFECTA RESTdIMPERFECTA RESTcBREVIS RESTcSEMIBREVIS RESTcMINIMA RESTcSEMIMINIMA RE
STcTEMPUS PERFECTUM CUM PROLATIONE PERFECTAgIMPERFECTAgPERFECTA DIMINUTION-1dIMPERFECTUM CUM PR
OLATIONE PERFECTAgIMPERFECTAhDIMINUTION-1hDIMINUTION-2hDIMINUTION-3cCROIXcGREGORIAN C CLEFdF CL
EFcSQUARE BcVIRGAcPODATUScCLIVIScSCANDICUScCLIMACUScTORCULUScPORRECTUSdFLEXUScSCANDICUS FLEXUSc
TORCULUS RESUPINUScPES SUBPUNCTIScKIEVAN C CLEFdEND OF PIECEdFINAL NOTEdRECITATIVE MARKdWHOLE N
OTEdHALF NOTEdQUARTER NOTE STEM DOWNgUPdEIGHTH NOTE STEM DOWNgUPdFLAT SIGNcSORIcKORON@1D200aGRE
EK VOCAL NOTATION SYMBOL-1dSYMBOL-2dSYMBOL-3dSYMBOL-4dSYMBOL-5dSYMBOL-6dSYMBOL-7dSYMBOL-8dSYMBO
L-9dSYMBOL-10dSYMBOL-11dSYMBOL-12dSYMBOL-13dSYMBOL-14dSYMBOL-15dSYMBOL-16dSYMBOL-17dSYMBOL-18dS
YMBOL-19dSYMBOL-20dSYMBOL-21dSYMBOL-22dSYMBOL-23dSYMBOL-24dSYMBOL-50dSYMBOL-51dSYMBOL-52dSYMBOL
-53dSYMBOL-54bINSTRUMENTAL NOTATION SYMBOL-1dSYMBOL-2dSYMBOL-4dSYMBOL-5dSYMBOL-7dSYMBOL-8dSYMBO
L-11dSYMBOL-12dSYMBOL-13dSYMBOL-14dSYMBOL-17dSYMBOL-18dSYMBOL-19dSYMBOL-23dSYMBOL-24dSYMBOL-25d
SYMBOL-26dSYMBOL-27dSYMBOL-29dSYMBOL-30dSYMBOL-32dSYMBOL-36dSYMBOL-37dSYMBOL-38dSYMBOL-39dSYMBO
L-40dSYMBOL-42dSYMBOL-43dSYMBOL-45dSYMBOL-47dSYMBOL-48dSYMBOL-49dSYMBOL-50dSYMBOL-51dSYMBOL-52d
SYMBOL-53dSYMBOL-54aCOMBINING GREEK MUSICAL TRISEMEdTETRASEMEdPENTASEMEaGREEK MUSICAL LEIMMA@1D
2E0aMAYAN NUMERAL ZEROcONEcTWOcTHREEcFOURcFIVEcSIXcSEVENcEIGHTcNINEcTENcELEVENcTWELVEcTHIRTEENc
FOURTEENcFIFTEENcSIXTEENcSEVENTEENcEIGHTEENcNINETEEN@1D300aMONOGRAM FOR EARTHaDIGRAM FOR HEAVEN
LY EARTHcHUMAN EARTHcEARTHLY HEAVENdHUMANcEARTHaTETRAGRAM FOR CENTREcFULL CIRCLEcMIREDcBARRIERc
KEEPING SMALLcCONTRARIETYcASCENTcOPPOSITIONcBRANCHING OUTcDEFECTIVENESS OR DISTORTIONcDIVERGENC
EcYOUTHFULNESScINCREASEcPENETRATIONcREACHcCONTACTcHOLDING BACKcWAITINGcFOLLOWINGcADVANCEcRELEAS
EcRESISTANCEcEASEcJOYcCONTENTIONcENDEAVOURcDUTIEScCHANGEcDECISIVENESScBOLD RESOLUTIONcPACKINGcL
EGIONcCLOSENESScKINSHIPcGATHERINGcSTRENGTHcPURITYcFULLNESScRESIDENCEcLAW OR MODELcRESPONSEcGOIN
G TO MEETcENCOUNTERScSTOVEcGREATNESScENLARGEMENTcPATTERNcRITUALcFLIGHTcVASTNESS OR WASTINGcCONS
TANCYcMEASUREcETERNITYcUNITYcDIMINISHMENTcCLOSED MOUTHcGUARDEDNESScGATHERING INcMASSINGcACCUMUL
ATIONcEMBELLISHMENTcDOUBTcWATCHcSINKINGcINNERcDEPARTUREcDARKENINGcDIMMINGcEXHAUSTIONcSEVERANCEc
STOPPAGEcHARDNESScCOMPLETIONcCLOSUREcFAILUREcAGGRAVATIONcCOMPLIANCEcON THE VERGEcDIFFICULTIEScL
ABOURINGcFOSTERING@1D360aCOUNTING ROD UNIT DIGIT ONEeTWOeTHREEeFOUReFIVEeSIXeSEVENeEIGHTeNINEcT
ENS DIGIT ONEeTWOeTHREEeFOUReFIVEeSIXeSEVENeEIGHTeNINEaIDEOGRAPHIC TALLY MARK ONEdTWOdTHREEdFOU
RdFIVEaTALLY MARK ONEcFIVE@1D400aMATHEMATICAL BOLD CAPITAL AdBdCdDdEdFdGdHdIdJdKdLdMdNdOdPdQdRd
SdTdUdVdWdXdYdZcSMALL AdBdCdDdEdFdGdHdIdJdKdLdMdNdOdPdQdRdSdTdUdVdWdXdYdZbITALIC CAPITAL AdBdCd
DdEdFdGdHdIdJdKdLdMdNdOdPdQdRdSdTdUdVdWdXdYdZcSMALL AdBdCdDdEdFdG@1D456dIdJdKdLdMdNdOdPdQdRdSdT
dUdVdWdXdYdZbBOLD ITALIC CAPITAL AeBeCeDeEeFeGeHeIeJeKeLeMeNeOePeQeReSeTeUeVeWeXeYeZdSMALL AeBe
CeDeEeFeGeHeIeJeKeLeMeNeOePeQeReSeTeUeVeWeXeYeZbSCRIPT CAPITAL A@1D49EdCdD@1D4A2dG@1D4A5dJdK@1D
4A9dNdOdPdQ@1D4AEdSdTdUdVdWdXdYdZcSMALL AdBdCdD@1D4BBdF@1D4BDdHdIdJdKdLdMdN@1D4C5dPdQdRdSdTdUdV
dWdXdYdZbBOLD SCRIPT CAPITAL AeBeCeDeEeFeGeHeIeJeKeLeMeNeOePeQeReSeTeUeVeWeXeYeZdSMALL AeBeCeDe
EeFeGeHeIeJeKeLeMeNeOePeQeReSeTeUeVeWeXeYeZbFRAKTUR CAPITAL AdB@1D507dDdEdFdG@1D50DdJdKdLdMdNdO
dPdQ@1D516dSdTdUdVdWdXdY@1D51EcSMALL AdBdCdDdEdFdGdHdIdJdKdLdMdNdOdPdQdRdSdTdUdVdWdXdYdZbDOUBLE
-STRUCK CAPITAL AdB@1D53BdDdEdFdG@1D540dIdJdKdLdM@1D546dO@1D54AdSdTdUdVdWdXdY@1D552cSMALL AdBdC
dDdEdFdGdHdIdJdKdLdMdNdOdPdQdRdSdTdUdVdWdXdYdZbBOLD FRAKTUR CAPITAL AeBeCeDeEeFeGeHeIeJeKeLeMeN
eOePeQeReSeTeUeVeWeXeYeZdSMALL AeBeCeDeEeFeGeHeIeJeKeLeMeNeOePeQeReSeTeUeVeWeXeYeZbSANS-SERIF C
APITAL AdBdCdDdEdFdGdHdIdJdKdLdMdNdOdPdQdRdSdTdUdVdWdXdYdZcSMALL AdBdCdDdEdFdGdHdIdJdKdLdMdNdOd
PdQdRdSdTdUdVdWdXdYdZcBOLD CAPITAL AeBeCeDeEeFeGeHeIeJeKeLeMeNeOePeQeReSeTeUeVeWeXeYeZdSMALL Ae
BeCeDeEeFeGeHeIeJeKeLeMeNeOePeQeReSeTeUeVeWeXeYeZcITALIC CAPITAL AeBeCeDeEeFeGeHeIeJeKeLeMeNeOe
PeQeReSeTeUeVeWeXeYeZdSMALL AeBeCeDeEeFeGeHeIeJeKeLeMeNeOePeQeReSeTeUeVeWeXeYeZcBOLD ITALIC CAP
ITAL AfBfCfDfEfFfGfHfIfJfKfLfMfNfOfPfQfRfSfTfUfVfWfXfYfZeSMALL AfBfCfDfEfFfGfHfIfJfKfLfMfNfOfPf
QfRfSfTfUfVfWfXfYfZbMONOSPACE CAPITAL AdBdCdDdEdFdGdHdIdJdKdLdMdNdOdPdQdRdSdTdUdVdWdXdYdZcSMAL
L AdBdCdDdEdFdGdHdIdJdKdLdMdNdOdPdQdRdSdTdUdVdWdXdYdZbITALIC SMALL DOTLESS IeJ@1D6A8bBOLD CAPIT
AL ALPHAdBETAdGAMMAdDELTAdEPSILONdZETAdETAdTHETAdIOTAdKAPPAdLAMDAdMUdNUdXIdOMICRONdPIdRHOdTHET
A SYMBOLdSIGMAdTAUdUPSILONdPHIdCHIdPSIdOMEGAcNABLAcSMALL ALPHAdBETAdGAMMAdDELTAdEPSILONdZETAdET
AdTHETAdIOTAdKAPPAdLAMDAdMUdNUdXIdOMICRONdPIdRHOdFINAL SIGMAdSIGMAdTAUdUPSILONdPHIdCHIdPSIdOMEG
AcPARTIAL DIFFERENTIALcEPSILON SYMBOLcTHETA SYMBOLcKAPPA SYMBOLcPHI SYMBOLcRHO SYMBOLcPI SYMBOL
bITALIC CAPITAL ALPHAdBETAdGAMMAdDELTAdEPSILONdZETAdETAdTHETAdIOTAdKAPPAdLAMDAdMUdNUdXIdOMICRON
dPIdRHOdTHETA SYMBOLdSIGMAdTAUdUPSILONdPHIdCHIdPSIdOMEGAcNABLAcSMALL ALPHAdBETAdGAMMAdDELTAdEPS
ILONdZETAdETAdTHETAdIOTAdKAPPAdLAMDAdMUdNUdXIdOMICRONdPIdRHOdFINAL SIGMAdSIGMAdTAUdUPSILONdPHId
CHIdPSIdOMEGAcPARTIAL DIFFERENTIALcEPSILON SYMBOLcTHETA SYMBOLcKAPPA SYMBOLcPHI SYMBOLcRHO SYMB
OLcPI SYMBOLbBOLD ITALIC CAPITAL ALPHAeBETAeGAMMAeDELTAeEPSILONeZETAeETAeTHETAeIOTAeKAPPAeLAMDA
eMUeNUeXIeOMICRONePIeRHOeTHETA SYMBOLeSIGMAeTAUeUPSILONePHIeCHIePSIeOMEGAdNABLAdSMALL ALPHAeBET
AeGAMMAeDELTAeEPSILONeZETAeETAeTHETAeIOTAeKAPPAeLAMDAeMUeNUeXIeOMICRONePIeRHOeFINAL SIGMAeSIGMA
eTAUeUPSILONePHIeCHIePSIeOMEGAdPARTIAL DIFFERENTIALdEPSILON SYMBOLdTHETA SYMBOLdKAPPA SYMBOLdPH
I SYMBOLdRHO SYMBOLdPI SYMBOLbSANS-SERIF BOLD CAPITAL ALPHAeBETAeGAMMAeDELTAeEPSILONeZETAeETAeT
HETAeIOTAeKAPPAeLAMDAeMUeNUeXIeOMICRONePIeRHOeTHETA SYMBOLeSIGMAeTAUeUPSILONePHIeCHIePSIeOMEGAd
NABLAdSMALL ALPHAeBETAeGAMMAeDELTAeEPSILONeZETAeETAeTHETAeIOTAeKAPPAeLAMDAeMUeNUeXIeOMICRONePIe
RHOeFINAL SIGMAeSIGMAeTAUeUPSILONePHIeCHIePSIeOMEGAdPARTIAL DIFFERENTIALdEPSILON SYMBOLdTHETA S
YMBOLdKAPPA SYMBOLdPHI SYMBOLdRHO SYMBOLdPI SYMBOLdITALIC CAPITAL ALPHAfBETAfGAMMAfDELTAfEPSILO
NfZETAfETAfTHETAfIOTAfKAPPAfLAMDAfMUfNUfXIfOMICRONfPIfRHOfTHETA SYMBOLfSIGMAfTAUfUPSILONfPHIfCH
IfPSIfOMEGAeNABLAeSMALL ALPHAfBETAfGAMMAfDELTAfEPSILONfZETAfETAfTHETAfIOTAfKAPPAfLAMDAfMUfNUfXI
fOMICRONfPIfRHOfFINAL SIGMAfSIGMAfTAUfUPSILONfPHIfCHIfPSIfOMEGAePARTIAL DIFFERENTIALeEPSILON SY
MBOLeTHETA SYMBOLeKAPPA SYMBOLePHI SYMBOLeRHO SYMBOLePI SYMBOLbBOLD CAPITAL DIGAMMAcSMALL DIGAM
MA@1D7CEcDIGIT ZEROdONEdTWOdTHREEdFOURdFIVEdSIXdSEVENdEIGHTdNINEbDOUBLE-STRUCK DIGIT ZEROdONEdT
WOdTHREEdFOURdFIVEdSIXdSEVENdEIGHTdNINEbSANS-SERIF DIGIT ZEROdONEdTWOdTHREEdFOURdFIVEdSIXdSEVEN
dEIGHTdNINEcBOLD DIGIT ZEROeONEeTWOeTHREEeFOUReFIVEeSIXeSEVENeEIGHTeNINEbMONOSPACE DIGIT ZEROdO
NEdTWOdTHREEdFOURdFIVEdSIXdSEVENdEIGHTdNINEaSIGNWRITING HAND-FIST INDEXbHAND-CIRCLE INDEXbHAND-
CUP INDEXbHAND-OVAL INDEXbHAND-HINGE INDEXbHAND-ANGLE INDEXbHAND-FIST INDEX BENTbHAND-CIRCLE IN
DEX BENTbHAND-FIST THUMB UNDER INDEX BENTcINDEX RAISED KNUCKLEdCUPPEDdHINGEDeLOWbHAND-CIRCLE IN
DEX HINGEbHAND-FIST INDEX MIDDLEbHAND-CIRCLE INDEX MIDDLEbHAND-FIST INDEX MIDDLE BENTeRAISED KN
UCKLESeHINGEDdUP MIDDLE HINGEDdHINGED MIDDLE UPdMIDDLE CONJOINEDfINDEX BENTfMIDDLE BENTfCUPPEDf
HINGEDeCROSSEDbHAND-CIRCLE INDEX MIDDLE CROSSEDbHAND-FIST MIDDLE BENT OVER INDEXcINDEX BENT OVE
R MIDDLEdMIDDLE THUMBbHAND-CIRCLE INDEX MIDDLE THUMBbHAND-FIST INDEX MIDDLE STRAIGHT THUMB BENT
eBENT THUMB STRAIGHTeTHUMB BENTeHINGED SPREAD THUMB SIDEdUP MIDDLE HINGED THUMB SIDEhCONJOINEDd
HINGED MIDDLE UP THUMB SIDEdMIDDLE UP SPREAD THUMB FORWARDeTHUMB CUPPEDfCIRCLEDfHOOKEDfHINGEDcT
HUMB BETWEEN INDEX MIDDLE STRAIGHTcINDEX MIDDLE CONJOINED THUMB SIDEhCONJOINEDhBENTcMIDDLE THUM
B HOOKED INDEX UPcINDEX THUMB HOOKED MIDDLE UPdMIDDLE CONJOINED HINGED THUMB SIDEeCROSSED THUM
B SIDEeCONJOINED THUMB FORWARDfCUPPED THUMB FORWARDcMIDDLE THUMB CUPPED INDEX UPcINDEX THUMB CU
PPED MIDDLE UPcMIDDLE THUMB CIRCLED INDEX UPgHINGEDcINDEX THUMB ANGLED OUT MIDDLE UPfIN MIDDL
E UPeCIRCLED MIDDLE UPdMIDDLE THUMB CONJOINED HINGEDfANGLED OUTgcMIDDLE THUMB ANGLED OUT INDE
X UPhCROSSEDfINDEX UPcINDEX THUMB HOOKED MIDDLE HINGEDbHAND-FLAT FOUR FINGERSeBENTeHINGEDeCONJO
INEDfSPLITbHAND-CLAW FOUR FINGERS CONJOINEDbHAND-FIST FOUR FINGERS CONJOINED BENTbHAND-HINGE FO
UR FINGERS CONJOINEDbHAND-FLAT FIVE FINGERS SPREADcHEEL FIVE FINGERS SPREADcFIVE FINGERS SPREA
D FOUR BENTcHEEL FIVE FINGERS SPREAD FOUR BENTcFIVE FINGERS SPREAD BENTcHEEL FIVE FINGERS SPREA
D BENTcFIVE FINGERS SPREAD THUMB FORWARDbHAND-CUP FIVE FINGERS SPREADfOPENbHAND-HINGE FIVE FING
ERS SPREAD OPENbHAND-OVAL FIVE FINGERS SPREADbHAND-FLAT FIVE FINGERS SPREAD HINGEDgTHUMB SIDEgN
O THUMBccBETWEEN PALM FACINGScHEELcTHUMB SIDEcHEEL THUMB SIDEcTHUMB BENTdFORWARDcSPLIT INDEX TH
UMB SIDEdCENTREeTHUMB SIDEgBENTdLITTLEbHAND-CLAWcTHUMB SIDEcNO THUMBcTHUMB FORWARDbHAND-HOOK CU
RLICUEcbHAND-CUP OPENccOPEN THUMB SIDEcTHUMB SIDEcOPEN NO THUMBcNO THUMBcOPEN THUMB FORWARDcTHU
MB FORWARDbHAND-CURLICUE OPENcbHAND-CIRCLEbHAND-OVALcTHUMB SIDEcNO THUMBcTHUMB FORWARDbHAND-HIN
GE OPENdTHUMB FORWARDccSMALLcOPEN THUMB SIDEcTHUMB SIDEcOPEN NO THUMBcNO THUMBcTHUMB SIDE TOUCH
ING INDEXdBETWEEN MIDDLE RINGbHAND-ANGLEbHAND-FIST INDEX MIDDLE RINGbHAND-CIRCLE INDEX MIDDLE R
INGbHAND-HINGE INDEX MIDDLE RINGbHAND-ANGLE INDEX MIDDLE RINGbHAND-HINGE LITTLEbHAND-FIST INDE
X MIDDLE RING BENTfCONJOINEDbHAND-HINGE INDEX MIDDLE RING CONJOINEDbHAND-FIST LITTLE DOWNeRIPPL
E STRAIGHTfCURVEDeOTHERS CIRCLEDdUPcTHUMB UNDER LITTLE UPbHAND-CIRCLE LITTLE UPbHAND-OVAL LITTL
E UPbHAND-ANGLE LITTLE UPbHAND-FIST LITTLE RAISED KNUCKLEdBENTdTOUCHES THUMBdTHUMBbHAND-HINGE L
ITTLE THUMBbHAND-FIST LITTLE INDEX THUMBbHAND-HINGE LITTLE INDEX THUMBbHAND-ANGLE LITTLE INDE
X THUMB INDEX THUMB OUThbHAND-FIST LITTLE INDEXbHAND-CIRCLE LITTLE INDEXbHAND-HINGE LITTLE INDE
XbHAND-ANGLE LITTLE INDEXbHAND-FIST INDEX MIDDLE LITTLEbHAND-CIRCLE INDEX MIDDLE LITTLEbHAND-HI
NGE INDEX MIDDLE LITTLEcRINGbHAND-ANGLE INDEX MIDDLE LITTLEbHAND-FIST INDEX MIDDLE CROSS LITTLE
bHAND-CIRCLE INDEX MIDDLE CROSS LITTLEbHAND-FIST RING DOWNbHAND-HINGE RING DOWN INDEX THUMB HOO
K MIDDLEbHAND-ANGLE RING DOWN MIDDLE THUMB INDEX CROSSbHAND-FIST RING UPdRAISED KNUCKLEdLITTLEb
HAND-CIRCLE RING LITTLEbHAND-OVAL RING LITTLEbHAND-ANGLE RING LITTLEbHAND-FIST RING MIDDLEeCONJ
OINEDeRAISED KNUCKLESdINDEXdTHUMBbHAND-HOOK RING THUMBbHAND-FIST INDEX RING LITTLEbHAND-CIRCL
E INDEX RING LITTLEbHAND-CURLICUE INDEX RING LITTLE ONbHAND-HOOK INDEX RING LITTLE OUTfINfUNDER
bHAND-CUP INDEX RING LITTLEbHAND-HINGE INDEX RING LITTLEbHAND-ANGLE INDEX RING LITTLE OUTfbHAND
-FIST MIDDLE DOWNbHAND-HINGE MIDDLEbHAND-FIST MIDDLE UPbHAND-CIRCLE MIDDLE UPbHAND-FIST MIDDL
E RAISED KNUCKLEdUP THUMB SIDEbHAND-HOOK MIDDLE THUMBbHAND-FIST MIDDLE THUMB LITTLEdLITTLEdRIN
G LITTLEbHAND-CIRCLE MIDDLE RING LITTLEbHAND-CURLICUE MIDDLE RING LITTLE ONbHAND-CUP MIDDLE RIN
G LITTLEbHAND-HINGE MIDDLE RING LITTLEbHAND-ANGLE MIDDLE RING LITTLE OUTfINfbHAND-CIRCLE MIDDL
E RING LITTLE BENTbHAND-CLAW MIDDLE RING LITTLE CONJOINEDgSIDEbHAND-HOOK MIDDLE RING LITTLE CON
JOINED OUTgINgbHAND-HINGE INDEX HINGEDbHAND-FIST INDEX THUMB SIDEbHAND-HINGE INDEX THUMB SIDEbH
AND-FIST INDEX THUMB SIDE THUMB DIAGONALgCONJOINEDgBENTfINDEX BENTfBOTH BENTfINDEX HINGEeFORWAR
D INDEX STRAIGHTgBENTeHOOKeCURLICUEeCURVE THUMB INSIDEbHAND-CLAW INDEX THUMB CURVE THUMB INSIDE
bHAND-FIST INDEX THUMB CURVE THUMB UNDEReCIRCLEbHAND-CUP INDEX THUMBeOPENbHAND-HINGE INDEX THUM
B OPENeLARGEeeSMALLbHAND-ANGLE INDEX THUMB OUTeINebHAND-FIST THUMBdHEELdSIDE DIAGONALeCONJOINED
eBENTdFORWARDdBETWEEN INDEX MIDDLEeMIDDLE RINGeRING LITTLEdUNDER TWO FINGERSdOVER TWO FINGERSdU
NDER THREE FINGERSeFOUR FINGERSdOVER FOUR RAISED KNUCKLESccHEELbTOUCH SINGLEcMULTIPLEcBETWEENbG
RASP SINGLEcMULTIPLEcBETWEENbSTRIKE SINGLEcMULTIPLEcBETWEENbBRUSH SINGLEcMULTIPLEcBETWEENbRUB S
INGLEcMULTIPLEcBETWEENbSURFACE SYMBOLScBETWEENbSQUEEZE LARGE SINGLEcSMALL SINGLEcLARGE MULTIPLE
cSMALL MULTIPLEcSEQUENTIALbFLICK LARGE SINGLEcSMALL SINGLEcLARGE MULTIPLEcSMALL MULTIPLEcSEQUEN
TIALbSQUEEZE FLICK ALTERNATINGbMOVEMENT-HINGE UP DOWN LARGEeSMALLdSEQUENTIALcDOWN SEQUENTIALcU
P DOWN ALTERNATING LARGEfSMALLcSIDE TO SIDE SCISSORSbMOVEMENT-WALLPLANE FINGER CONTACTbMOVEMENT
-FLOORPLANE FINGER CONTACTbMOVEMENT-WALLPLANE SINGLE STRAIGHT SMALLeMEDIUMeLARGEeLARGESTdWRIS
T FLEXcDOUBLE STRAIGHTdWRIST FLEXdALTERNATINGeWRIST FLEXcCROSScTRIPLE STRAIGHT MOVEMENTdWRIST F
LEXdALTERNATINGeWRIST FLEXcBEND SMALLdMEDIUMdLARGEcCORNER SMALLdMEDIUMdLARGEdROTATIONcCHECK SMA
LLdMEDIUMdLARGEcBOX SMALLdMEDIUMdLARGEcZIGZAG SMALLdMEDIUMdLARGEcPEAKS SMALLdMEDIUMdLARGEbTRAVE
L-WALLPLANE ROTATION-WALLPLANE SINGLEdDOUBLEdALTERNATINGcROTATION-FLOORPLANE SINGLEdDOUBLEdALTE
RNATINGcSHAKINGcARM SPIRAL SINGLEeDOUBLEeTRIPLEbMOVEMENT-DIAGONAL AWAY SMALLdMEDIUMdLARGEdLARGE
STcTOWARDS SMALLdMEDIUMdLARGEdLARGESTcBETWEEN AWAY SMALLeMEDIUMeLARGEeLARGESTdTOWARDS SMALLeMED
IUMeLARGEeLARGESTbMOVEMENT-FLOORPLANE SINGLE STRAIGHT SMALLeMEDIUMeLARGEeLARGESTdWRIST FLEXcDOU
BLE STRAIGHTdWRIST FLEXdALTERNATINGeWRIST FLEXcCROSScTRIPLE STRAIGHT MOVEMENTdWRIST FLEXdALTERN
ATING MOVEMENTeWRIST FLEXcBENDcCORNER SMALLdMEDIUMdLARGEcCHECKcBOX SMALLdMEDIUMdLARGEcZIGZAG SM
ALLdMEDIUMdLARGEcPEAKS SMALLdMEDIUMdLARGEbTRAVEL-FLOORPLANE ROTATION-FLOORPLANE SINGLEdDOUBLEdA
LTERNATINGcROTATION-WALLPLANE SINGLEdDOUBLEdALTERNATINGcSHAKINGbMOVEMENT-WALLPLANE CURVE QUARTE
R SMALLeMEDIUMeLARGEeLARGESTdHALF-CIRCLE SMALLeMEDIUMeLARGEeLARGESTdTHREE-QUARTER CIRCLE SMALLf
MEDIUMcHUMP SMALLdMEDIUMdLARGEcLOOP SMALLdMEDIUMdLARGEdSMALL DOUBLEcWAVE CURVE DOUBLE SMALLfMED
IUMfLARGEeTRIPLE SMALLfMEDIUMfLARGEcCURVE THEN STRAIGHTcCURVED CROSS SMALLeMEDIUMbROTATION-WALL
PLANE SINGLEcDOUBLEcALTERNATEbMOVEMENT-WALLPLANE SHAKINGcCURVE HITTING FRONT WALLcHUMP HITTIN
G FRONT WALLcLOOP HITTING FRONT WALLcWAVE HITTING FRONT WALLbROTATION-WALLPLANE SINGLE HITTIN
G FRONT WALLcDOUBLE HITTING FRONT WALLcALTERNATING HITTING FRONT WALLbMOVEMENT-WALLPLANE CURV
E HITTING CHESTcHUMP HITTING CHESTcLOOP HITTING CHESTcWAVE HITTING CHESTbROTATION-WALLPLANE SIN
GLE HITTING CHESTcDOUBLE HITTING CHESTcALTERNATING HITTING CHESTbMOVEMENT-WALLPLANE WAVE DIAGON
AL PATH SMALLfMEDIUMfLARGEbMOVEMENT-FLOORPLANE CURVE HITTING CEILING SMALLfLARGEcHUMP HITTING C
EILING SMALL DOUBLEfLARGE DOUBLEfSMALL TRIPLEfLARGE TRIPLEcLOOP HITTING CEILING SMALL SINGLEfLA
RGE SINGLEfSMALL DOUBLEfLARGE DOUBLEcWAVE HITTING CEILING SMALLfLARGEbROTATION-FLOORPLANE SINGL
E HITTING CEILINGcDOUBLE HITTING CEILINGcALTERNATING HITTING CEILINGbMOVEMENT-FLOORPLANE CURV
E HITTING FLOOR SMALLfLARGEcHUMP HITTING FLOOR SMALL DOUBLEfLARGE DOUBLEfTRIPLE SMALL TRIPLEgLA
RGE TRIPLEcLOOP HITTING FLOOR SMALL SINGLEfLARGE SINGLEfSMALL DOUBLEfLARGE DOUBLEcWAVE HITTIN
G FLOOR SMALLfLARGEbROTATION-FLOORPLANE SINGLE HITTING FLOORcDOUBLE HITTING FLOORcALTERNATING H
ITTING FLOORbMOVEMENT-FLOORPLANE CURVE SMALLdMEDIUMdLARGEdLARGESTdCOMBINEDcHUMP SMALLcLOOP SMAL
LcWAVE SNAKEdSMALLdLARGEbROTATION-FLOORPLANE SINGLEcDOUBLEcALTERNATINGbMOVEMENT-FLOORPLANE SHAK
ING PARALLELbMOVEMENT-WALLPLANE ARM CIRCLE SMALL SINGLEeMEDIUM SINGLEeSMALL DOUBLEeMEDIUM DOUBL
EbMOVEMENT-FLOORPLANE ARM CIRCLE HITTING WALL SMALL SINGLEgMEDIUM SINGLEgLARGE SINGLEgSMALL DOU
BLEgMEDIUM DOUBLEgLARGE DOUBLEbMOVEMENT-WALLPLANE WRIST CIRCLE FRONT SINGLEfDOUBLEbMOVEMENT-FLO
ORPLANE WRIST CIRCLE HITTING WALL SINGLEgDOUBLEbMOVEMENT-WALLPLANE FINGER CIRCLES SINGLEeDOUBLE
bMOVEMENT-FLOORPLANE FINGER CIRCLES HITTING WALL SINGLEgDOUBLEbDYNAMIC ARROWHEAD SMALLdLARGEcFA
STcSLOWcTENSEcRELAXEDcSIMULTANEOUSdALTERNATINGcEVERY OTHER TIMEcGRADUALbHEADcRIMcMOVEMENT-WALLP
LANE STRAIGHTdTILTcMOVEMENT-FLOORPLANE STRAIGHTcMOVEMENT-WALLPLANE CURVEcMOVEMENT-FLOORPLANE CU
RVEcMOVEMENT CIRCLEbFACE DIRECTION POSITION NOSE FORWARD TILTINGfUP OR DOWNiTILTINGbEYEBROWS ST
RAIGHT UPdNEUTRALdDOWNbDREAMY EYEBROWS NEUTRAL DOWNdDOWN NEUTRALdUP NEUTRALdNEUTRAL UPbFOREHEA
D NEUTRALcCONTACTcWRINKLEDbEYES OPENcSQUEEZEDcCLOSEDbEYE BLINK SINGLEdMULTIPLEbEYES HALF OPENcW
IDE OPENcHALF CLOSEDcWIDENING MOVEMENTbEYE WINKbEYELASHES UPcDOWNcFLUTTERINGbEYEGAZE-WALLPLAN
E STRAIGHTdDOUBLEdALTERNATINGbEYEGAZE-FLOORPLANE STRAIGHTdDOUBLEdALTERNATINGbEYEGAZE-WALLPLAN
E CURVEDbEYEGAZE-FLOORPLANE CURVEDbEYEGAZE-WALLPLANE CIRCLINGbCHEEKS PUFFEDcNEUTRALcSUCKEDbTENS
E CHEEKS HIGHdMIDDLEdLOWbEARSbNOSE NEUTRALcCONTACTcWRINKLEScWIGGLESbAIR BLOWING OUTcSUCKING INc
BLOW SMALL ROTATIONScSUCK SMALL ROTATIONSbBREATH INHALEcEXHALEbMOUTH CLOSED NEUTRALdFORWARDdCON
TACTcSMILEdWRINKLEDdOPENcFROWNdWRINKLEDdOPENcOPEN CIRCLEdFORWARDdWRINKLEDdOVALeWRINKLEDeYAWNdRE
CTANGLEeWRINKLEDeYAWNcKISSdFORWARDdWRINKLEDcTENSEdFORWARDdSUCKEDbLIPS PRESSED TOGETHERbLIP LOWE
R OVER UPPERcUPPER OVER LOWERbMOUTH CORNERScWRINKLES SINGLEdDOUBLEbTONGUE STICKING OUT FARcLICK
ING LIPScTIP BETWEEN LIPSdTOUCHING INSIDE MOUTHcINSIDE MOUTH RELAXEDcMOVES AGAINST CHEEKcCENTR
E STICKING OUTdINSIDE MOUTHbTEETHcMOVEMENTcON TONGUEeMOVEMENTdLIPSeMOVEMENTcBITE LIPSbMOVEMENT-
WALLPLANE JAWbMOVEMENT-FLOORPLANE JAWbNECKbHAIRbEXCITEMENTbSHOULDER HIP SPINEdPOSITIONSbWALLPLA
NE SHOULDER HIP MOVEbFLOORPLANE SHOULDER HIP MOVEbSHOULDER TILTING FROM WAISTbTORSO-WALLPLANE S
TRAIGHT STRETCHcCURVED BENDbTORSO-FLOORPLANE TWISTINGbUPPER BODY TILTING FROM HIP JOINTSbLIMB C
OMBINATIONcLENGTH-1cLENGTH-2cLENGTH-3cLENGTH-4cLENGTH-5cLENGTH-6cLENGTH-7bFINGERbLOCATION-WALLP
LANE SPACEbLOCATION-FLOORPLANE SPACEbLOCATION HEIGHTcWIDTHcDEPTHcHEAD NECKcTORSOcLIMBS DIGITSbC
OMMAbFULL STOPbSEMICOLONbCOLONbPARENTHESIS@1DA9BbFILL MODIFIER-2cMODIFIER-3cMODIFIER-4cMODIFIER
-5cMODIFIER-6@1DAA1bROTATION MODIFIER-2cMODIFIER-3cMODIFIER-4cMODIFIER-5cMODIFIER-6cMODIFIER-7c
MODIFIER-8cMODIFIER-9cMODIFIER-10cMODIFIER-11cMODIFIER-12cMODIFIER-13cMODIFIER-14cMODIFIER-15cM
ODIFIER-16@1DF00aLATIN SMALL LETTER FENG DIGRAPH WITH TRILLdREVERSED SCRIPT GbLETTER SMALL CAPI
TAL TURNED GbSMALL LETTER REVERSED KbLETTER SMALL CAPITAL L WITH BELTbSMALL LETTER LEZH WITH RE
TROFLEX HOOKdTURNED Y WITH BELTdREVERSED ENGdTURNED R WITH LONG LEG AND RETROFLEX HOOKdT WITH H
OOK AND RETROFLEX HOOKbLETTER RETROFLEX CLICK WITH RETROFLEX HOOKbSMALL LETTER ESH WITH DOUBL
E BARhAND CURLdTURNED T WITH CURLbLETTER INVERTED GLOTTAL STOP WITH CURLcSTRETCHED C WITH CURLc
SMALL CAPITAL TURNED KbSMALL LETTER L WITH FISHHOOKdDEZH DIGRAPH WITH PALATAL HOOKdL WITH BEL
T AND PALATAL HOOKdENG WITH PALATAL HOOKdTURNED R WITH PALATAL HOOKdR WITH FISHHOOK AND PALATA
L HOOKdTESH DIGRAPH WITH PALATAL HOOKdEZH WITH PALATAL HOOKdDEZH DIGRAPH WITH RETROFLEX HOOKd
I WITH STROKE AND RETROFLEX HOOKdO WITH RETROFLEX HOOKdTESH DIGRAPH WITH RETROFLEX HOOKdC WIT
H RETROFLEX HOOKdS WITH CURL@1E000aCOMBINING GLAGOLITIC LETTER AZUdBUKYdVEDEdGLAGOLIdDOBROdYEST
UdZHIVETE@1E008dZEMLJAdIZHEdINITIAL IZHEdIdDJERVIdKAKOdLJUDIJEdMYSLITEdNASHIdONUdPOKOJIdRITSIdS
LOVOdTVRIDOdUKUdFRITUdHERU@1E01BdSHTAdTSIdCHRIVIdSHAdYERUdYERIdYATI@1E023dYUdSMALL YUS@1E026dYO
dIOTATED SMALL YUSdBIG YUSdIOTATED BIG YUSdFITA@1E100aNYIAKENG PUACHUE HMONG LETTER MAeTSAeNTAe
TAeHAeNAeXAeNKAeCAeLAeSAeZAeNCAeNTSAeKAeDAeNYAeNRAeVAeNTXAeTXAeFAeRAeQAeYAeNQAePAeXYAeNPAeDLAeN
PLAeHAHeMLAePLAeGAeRRAeAeAAeIeUeOeOOeEeEEeW@1E130dTONE-BdTONE-MdTONE-JdTONE-VdTONE-SdTONE-GdTON
E-DdSIGN FOR PERSONfTHINGfLOCATIONfANIMALfINVERTEBRATEeXW XWdSYLLABLE LENGTHENER@1E140dDIGIT ZE
ROeONEeTWOeTHREEeFOUReFIVEeSIXeSEVENeEIGHTeNINE@1E14EdLOGOGRAM NYAJdCIRCLED CA@1E290aTOTO LETTE
R PAcBAcTAcDAcKAcGAcMAcNAcNGAcSAcCHAcYAcWAcJAcHAcRAcLAcIcBREATHY IcIUcBREATHY IUcUcEcBREATHY Ec
EOcBREATHY EOcOcAEcBREATHY AEcAbSIGN RISING TONE@1E2C0aWANCHO LETTER AAcAcBAcCAcDAcGAcYAcPHAcLA
cNAcPAcTAcTHAcFAcSAcSHAcJAcZAcWAcVAcKAcOcAUcRAcMAcKHAcHAcEcIcNGAcUcLLHAcTSAcTRAcONGcAANGcANGcIN
GcONcENcAANcNYAcUENcYIHbTONE TUPcTUPNIcKOIcKOINIbDIGIT ZEROcONEcTWOcTHREEcFOURcFIVEcSIXcSEVENcE
IGHTcNINE@1E2FFbNGUN SIGN@1E7E0aETHIOPIC SYLLABLE HHYAcHHYUcHHYIcHHYAAcHHYEEcHHYEcHHYO@1E7E8cGU
RAGE HHWAcHHWIcHHWEEcHHWE@1E7EDcGURAGE MWIdMWEE@1E7F0dQWIdQWEEdQWEdBWIdBWEEdKWIdKWEEdKWEdGWIdGW
EEdGWEdFWIdFWEEdPWIdPWEE@1E800aMENDE KIKAKUI SYLLABLE M001 KIdM002 KAdM003 KUdM065 KEEdM095 KEd
M076 KOOdM048 KOdM179 KUAdM004 WIdM005 WAdM006 WUdM126 WEEdM118 WEdM114 WOOdM045 WOdM194 WUIdM1
43 WEIdM061 WVIdM049 WVAdM139 WVEdM007 MINdM008 MANdM009 MUNdM059 MENdM094 MONdM154 MUANdM189 M
UENdM010 BIdM011 BAdM012 BUdM150 BEEdM097 BEdM103 BOOdM138 BOdM013 IdM014 AdM015 UdM163 EEdM10
0 EdM165 OOdM147 OdM137 EIdM131 INdM135 INdM195 ANdM178 ENdM019 SIdM020 SAdM021 SUdM162 SEEdM11
6 SEdM136 SOOdM079 SOdM196 SIAdM025 LIdM026 LAdM027 LUdM084 LEEdM073 LEdM054 LOOdM153 LOdM110 L
ONG LEdM016 DIdM017 DAdM018 DUdM089 DEEdM180 DOOdM181 DOdM022 TIdM023 TAdM024 TUdM091 TEEdM05
5 TEdM104 TOOdM069 TOdM028 JIdM029 JAdM030 JUdM157 JEEdM113 JEdM160 JOOdM063 JOdM175 LONG JOdM0
31 YIdM032 YAdM033 YUdM109 YEEdM080 YEdM141 YOOdM121 YOdM034 FIdM035 FAdM036 FUdM078 FEEdM075 F
EdM133 FOOdM088 FOdM197 FUAdM101 FANdM037 NINdM038 NANdM039 NUNdM117 NENdM169 NONdM176 HIdM04
1 HAdM186 HUdM040 HEEdM096 HEdM042 HOOdM140 HOdM083 HEEIdM128 HOOUdM053 HINdM130 HANdM087 HUNdM
052 HENdM193 HONdM046 HUANdM090 NGGIdM043 NGGAdM082 NGGUdM115 NGGEEdM146 NGGEdM156 NGGOOdM120 N
GGOdM159 NGGAAdM127 NGGUAdM086 LONG NGGEdM106 LONG NGGOOdM183 LONG NGGOdM155 GIdM111 GAdM168 GU
dM190 GEEdM166 GUEIdM167 GUANdM184 NGENdM057 NGONdM177 NGUANdM068 PIdM099 PAdM050 PUdM081 PEEdM
051 PEdM102 POOdM066 POdM145 MBIdM062 MBAdM122 MBUdM047 MBEEdM188 MBEEdM072 MBEdM172 MBOOdM17
4 MBOdM187 MBUUdM161 LONG MBEdM105 LONG MBOOdM142 LONG MBOdM132 KPIdM092 KPAdM074 KPUdM044 KPEE
dM108 KPEdM112 KPOOdM158 KPOdM124 GBIdM056 GBAdM148 GBUdM093 GBEEdM107 GBEdM071 GBOOdM070 GBOdM
171 RAdM123 NDIdM129 NDAdM125 NDUdM191 NDEEdM119 NDEdM067 NDOOdM064 NDOdM152 NJAdM192 NJUdM14
9 NJEEdM134 NJOOdM182 VIdM185 VAdM151 VUdM173 VEEdM085 VEdM144 VOOdM077 VOdM164 NYINdM058 NYANd
M170 NYUNdM098 NYENdM060 NYON@1E8C7cDIGIT ONEdTWOdTHREEdFOURdFIVEdSIXdSEVENdEIGHTdNINEcCOMBININ
G NUMBER TEENSeTENSeHUNDREDSeTHOUSANDSeTEN THOUSANDSeHUNDRED THOUSANDSeMILLIONS@1E900aADLAM CAP
ITAL LETTER ALIFdDAALIdLAAMdMIIMdBAdSINNYIIYHEdPEdBHEdRAdEdFAdIdOdDHAdYHEdWAWdNUNdKAFdYAdUdJIIM
dCHIdHAdQAAFdGAdNYAdTUdNHAdVAdKHAdGBEdZALdKPOdSHAbSMALL LETTER ALIFdDAALIdLAAMdMIIMdBAdSINNYIIY
HEdPEdBHEdRAdEdFAdIdOdDHAdYHEdWAWdNUNdKAFdYAdUdJIIMdCHIdHAdQAAFdGAdNYAdTUdNHAdVAdKHAdGBEdZALdKP
OdSHAbALIF LENGTHENERbVOWEL LENGTHENERbGEMINATION MARKbHAMZAbCONSONANT MODIFIERbGEMINATE CONSON
ANT MODIFIERbNUKTAbNASALIZATION MARK@1E950bDIGIT ZEROcONEcTWOcTHREEcFOURcFIVEcSIXcSEVENcEIGHTcN
INE@1E95EbINITIAL EXCLAMATION MARKcQUESTION MARK@1EC71aINDIC SIYAQ NUMBER ONEdTWOdTHREEdFOURdFI
VEdSIXdSEVENdEIGHTdNINEdTENdTWENTYdTHIRTYdFORTYdFIFTYdSIXTYdSEVENTYdEIGHTYdNINETYdONE HUNDREDdT
WO HUNDREDdTHREE HUNDREDdFOUR HUNDREDdFIVE HUNDREDdSIX HUNDREDdSEVEN HUNDREDdEIGHT HUNDREDdNIN
E HUNDREDdONE THOUSANDdTWO THOUSANDdTHREE THOUSANDdFOUR THOUSANDdFIVE THOUSANDdSIX THOUSANDdSEV
EN THOUSANDdEIGHT THOUSANDdNINE THOUSANDdTEN THOUSANDdTWENTY THOUSANDdTHIRTY THOUSANDdFORTY THO
USANDdFIFTY THOUSANDdSIXTY THOUSANDdSEVENTY THOUSANDdEIGHTY THOUSANDdNINETY THOUSANDdLAKHdLAKHA
NcLAKH MARKcNUMBER KARORdKARORANdPREFIXED ONEeTWOeTHREEeFOUReFIVEeSIXeSEVENeEIGHTeNINEcPLACEHOL
DERcFRACTION ONE QUARTEReHALFdTHREE QUARTERScRUPEE MARKcNUMBER ALTERNATE ONEeTWOeTEN THOUSANDcA
LTERNATE LAKH MARK@1ED01aOTTOMAN SIYAQ NUMBER ONEdTWOdTHREEdFOURdFIVEdSIXdSEVENdEIGHTdNINEdTENd
TWENTYdTHIRTYdFORTYdFIFTYdSIXTYdSEVENTYdEIGHTYdNINETYdONE HUNDREDdTWO HUNDREDdTHREE HUNDREDdFOU
R HUNDREDdFIVE HUNDREDdSIX HUNDREDdSEVEN HUNDREDdEIGHT HUNDREDdNINE HUNDREDdONE THOUSANDdTWO TH
OUSANDdTHREE THOUSANDdFOUR THOUSANDdFIVE THOUSANDdSIX THOUSANDdSEVEN THOUSANDdEIGHT THOUSANDdNI
NE THOUSANDdTEN THOUSANDdTWENTY THOUSANDdTHIRTY THOUSANDdFORTY THOUSANDdFIFTY THOUSANDdSIXTY TH
OUSANDdSEVENTY THOUSANDdEIGHTY THOUSANDdNINETY THOUSANDcMARRATANcALTERNATE NUMBER TWOeTHREEeFOU
ReFIVEeSIXeSEVENeEIGHTeNINEeTENeFOUR HUNDREDeSIX HUNDREDeTWO THOUSANDeTEN THOUSANDcFRACTION ON
E HALFeSIXTH@1EE00aARABIC MATHEMATICAL ALEFcBEHcJEEMcDAL@1EE05cWAWcZAINcHAHcTAHcYEHcKAFcLAMcMEE
McNOONcSEENcAINcFEHcSADcQAFcREHcSHEENcTEHcTHEHcKHAHcTHALcDADcZAHcGHAINcDOTLESS BEHdNOONdFEHdQAF
@1EE21cINITIAL BEHdJEEM@1EE24dHEH@1EE27dHAH@1EE29dYEHdKAFdLAMdMEEMdNOONdSEENdAINdFEHdSADdQAF@1E
E34dSHEENdTEHdTHEHdKHAH@1EE39dDAD@1EE3BdGHAIN@1EE42cTAILED JEEM@1EE47dHAH@1EE49dYEH@1EE4BdLAM@1
EE4DdNOONdSEENdAIN@1EE51dSADdQAF@1EE54dSHEEN@1EE57dKHAH@1EE59dDAD@1EE5BdGHAIN@1EE5DdDOTLESS NOO
N@1EE5FeQAF@1EE61cSTRETCHED BEHdJEEM@1EE64dHEH@1EE67dHAHdTAHdYEHdKAF@1EE6CdMEEMdNOONdSEENdAINdF
EHdSADdQAF@1EE74dSHEENdTEHdTHEHdKHAH@1EE79dDADdZAHdGHAINdDOTLESS BEH@1EE7EeFEH@1EE80cLOOPED ALE
FdBEHdJEEMdDALdHEHdWAWdZAINdHAHdTAHdYEH@1EE8BdLAMdMEEMdNOONdSEENdAINdFEHdSADdQAFdREHdSHEENdTEHd
THEHdKHAHdTHALdDADdZAHdGHAIN@1EEA1cDOUBLE-STRUCK BEHdJEEMdDAL@1EEA5dWAWdZAINdHAHdTAHdYEH@1EEABd
LAMdMEEMdNOONdSEENdAINdFEHdSADdQAFdREHdSHEENdTEHdTHEHdKHAHdTHALdDADdZAHdGHAIN@1EEF0cOPERATOR ME
EM WITH HAH WITH TATWEELdHAH WITH DAL@1F000aMAHJONG TILE EAST WINDcSOUTH WINDcWEST WINDcNORTH W
INDcRED DRAGONcGREEN DRAGONcWHITE DRAGONcONE OF CHARACTERScTWO OF CHARACTERScTHREE OF CHARACTER
ScFOUR OF CHARACTERScFIVE OF CHARACTERScSIX OF CHARACTERScSEVEN OF CHARACTERScEIGHT OF CHARACTE
RScNINE OF CHARACTERScONE OF BAMBOOScTWO OF BAMBOOScTHREE OF BAMBOOScFOUR OF BAMBOOScFIVE OF BA
MBOOScSIX OF BAMBOOScSEVEN OF BAMBOOScEIGHT OF BAMBOOScNINE OF BAMBOOScONE OF CIRCLEScTWO OF CI
RCLEScTHREE OF CIRCLEScFOUR OF CIRCLEScFIVE OF CIRCLEScSIX OF CIRCLEScSEVEN OF CIRCLEScEIGHT O
F CIRCLEScNINE OF CIRCLEScPLUMcORCHIDcBAMBOOcCHRYSANTHEMUMcSPRINGcSUMMERcAUTUMNcWINTERcJOKERcBA
CK@1F030aDOMINO TILE HORIZONTAL BACKcHORIZONTAL-00-00cHORIZONTAL-00-01cHORIZONTAL-00-02cHORIZON
TAL-00-03cHORIZONTAL-00-04cHORIZONTAL-00-05cHORIZONTAL-00-06cHORIZONTAL-01-00cHORIZONTAL-01-01c
HORIZONTAL-01-02cHORIZONTAL-01-03cHORIZONTAL-01-04cHORIZONTAL-01-05cHORIZONTAL-01-06cHORIZONTAL
-02-00cHORIZONTAL-02-01cHORIZONTAL-02-02cHORIZONTAL-02-03cHORIZONTAL-02-04cHORIZONTAL-02-05cHOR
IZONTAL-02-06cHORIZONTAL-03-00cHORIZONTAL-03-01cHORIZONTAL-03-02cHORIZONTAL-03-03cHORIZONTAL-03
-04cHORIZONTAL-03-05cHORIZONTAL-03-06cHORIZONTAL-04-00cHORIZONTAL-04-01cHORIZONTAL-04-02cHORIZO
NTAL-04-03cHORIZONTAL-04-04cHORIZONTAL-04-05cHORIZONTAL-04-06cHORIZONTAL-05-00cHORIZONTAL-05-01
cHORIZONTAL-05-02cHORIZONTAL-05-03cHORIZONTAL-05-04cHORIZONTAL-05-05cHORIZONTAL-05-06cHORIZONTA
L-06-00cHORIZONTAL-06-01cHORIZONTAL-06-02cHORIZONTAL-06-03cHORIZONTAL-06-04cHORIZONTAL-06-05cHO
RIZONTAL-06-06cVERTICAL BACKcVERTICAL-00-00cVERTICAL-00-01cVERTICAL-00-02cVERTICAL-00-03cVERTIC
AL-00-04cVERTICAL-00-05cVERTICAL-00-06cVERTICAL-01-00cVERTICAL-01-01cVERTICAL-01-02cVERTICAL-01
-03cVERTICAL-01-04cVERTICAL-01-05cVERTICAL-01-06cVERTICAL-02-00cVERTICAL-02-01cVERTICAL-02-02cV
ERTICAL-02-03cVERTICAL-02-04cVERTICAL-02-05cVERTICAL-02-06cVERTICAL-03-00cVERTICAL-03-01cVERTIC
AL-03-02cVERTICAL-03-03cVERTICAL-03-04cVERTICAL-03-05cVERTICAL-03-06cVERTICAL-04-00cVERTICAL-04
-01cVERTICAL-04-02cVERTICAL-04-03cVERTICAL-04-04cVERTICAL-04-05cVERTICAL-04-06cVERTICAL-05-00cV
ERTICAL-05-01cVERTICAL-05-02cVERTICAL-05-03cVERTICAL-05-04cVERTICAL-05-05cVERTICAL-05-06cVERTIC
AL-06-00cVERTICAL-06-01cVERTICAL-06-02cVERTICAL-06-03cVERTICAL-06-04cVERTICAL-06-05cVERTICAL-06
-06@1F0A0aPLAYING CARD BACKcACE OF SPADEScTWO OF SPADEScTHREE OF SPADEScFOUR OF SPADEScFIVE O
F SPADEScSIX OF SPADEScSEVEN OF SPADEScEIGHT OF SPADEScNINE OF SPADEScTEN OF SPADEScJACK OF SPA
DEScKNIGHT OF SPADEScQUEEN OF SPADEScKING OF SPADES@1F0B1cACE OF HEARTScTWO OF HEARTScTHREE O
F HEARTScFOUR OF HEARTScFIVE OF HEARTScSIX OF HEARTScSEVEN OF HEARTScEIGHT OF HEARTScNINE OF HE
ARTScTEN OF HEARTScJACK OF HEARTScKNIGHT OF HEARTScQUEEN OF HEARTScKING OF HEARTScRED JOKER@1F0
C1cACE OF DIAMONDScTWO OF DIAMONDScTHREE OF DIAMONDScFOUR OF DIAMONDScFIVE OF DIAMONDScSIX OF D
IAMONDScSEVEN OF DIAMONDScEIGHT OF DIAMONDScNINE OF DIAMONDScTEN OF DIAMONDScJACK OF DIAMONDScK
NIGHT OF DIAMONDScQUEEN OF DIAMONDScKING OF DIAMONDScBLACK JOKER@1F0D1cACE OF CLUBScTWO OF CLUB
ScTHREE OF CLUBScFOUR OF CLUBScFIVE OF CLUBScSIX OF CLUBScSEVEN OF CLUBScEIGHT OF CLUBScNINE O
F CLUBScTEN OF CLUBScJACK OF CLUBScKNIGHT OF CLUBScQUEEN OF CLUBScKING OF CLUBScWHITE JOKERcFOO
LcTRUMP-1cTRUMP-2cTRUMP-3cTRUMP-4cTRUMP-5cTRUMP-6cTRUMP-7cTRUMP-8cTRUMP-9cTRUMP-10cTRUMP-11cTRU
MP-12cTRUMP-13cTRUMP-14cTRUMP-15cTRUMP-16cTRUMP-17cTRUMP-18cTRUMP-19cTRUMP-20cTRUMP-21@1F100aDI
GIT ZERO FULL STOPcCOMMAbONE COMMAbTWO COMMAbTHREE COMMAbFOUR COMMAbFIVE COMMAbSIX COMMAbSEVE
N COMMAbEIGHT COMMAbNINE COMMAaDINGBAT CIRCLED SANS-SERIF DIGIT ZERObNEGATIVE CIRCLED SANS-SERI
F DIGIT ZEROaCIRCLED ZERO WITH SLASHbANTICLOCKWISE ARROWbDOLLAR SIGN WITH OVERLAID BACKSLASHaPA
RENTHESIZED LATIN CAPITAL LETTER AeBeCeDeEeFeGeHeIeJeKeLeMeNeOePeQeReSeTeUeVeWeXeYeZaTORTOISE S
HELL BRACKETED LATIN CAPITAL LETTER SaCIRCLED ITALIC LATIN CAPITAL LETTER CfRbCDbWZaCOPYLEFT SY
MBOLaSQUARED LATIN CAPITAL LETTER AeBeCeDeEeFeGeHeIeJeKeLeMeNeOePeQeReSeTeUeVeWeXeYeZbHVbMVbSDb
SSbPPVbWCaNEGATIVE CIRCLED LATIN CAPITAL LETTER AfBfCfDfEfFfGfHfIfJfKfLfMfNfOfPfQfRfSfTfUfVfWfX
fYfZaRAISED MC SIGNbMD SIGNbMR SIGNaCIRCLED CCbC WITH OVERLAID BACKSLASHbHUMAN FIGUREaNEGATIV
E SQUARED LATIN CAPITAL LETTER AfBfCfDfEfFfGfHfIfJfKfLfMfNfOfPfQfRfSfTfUfVfWfXfYfZaCROSSED NEGA
TIVE SQUARED LATIN CAPITAL LETTER PaNEGATIVE SQUARED ICcPAcSAcABcWCaSQUARE DJaSQUARED CLbCOOLbF
REEbIDbNEWbNGbOKbSOSbUP WITH EXCLAMATION MARKbVSbTHREE DbSECOND SCREENbTWO KbFOUR KbEIGHT KbFIV
E POINT ONEbSEVEN POINT ONEbTWENTY-TWO POINT TWObSIXTY PbONE HUNDRED TWENTY PbLATIN SMALL LETTE
R DbHCbHDRbHI-RESbLOSSLESSbSHVbUHDbVODaMASK WORK SYMBOL@1F1E6aREGIONAL INDICATOR SYMBOL LETTE
R AeBeCeDeEeFeGeHeIeJeKeLeMeNeOePeQeReSeTeUeVeWeXeYeZaSQUARE HIRAGANA HOKAaSQUARED KATAKANA KOK
OcSA@1F210bCJK UNIFIED IDEOGRAPH-624BdIDEOGRAPH-5B57dIDEOGRAPH-53CCbKATAKANA DEbCJK UNIFIED IDE
OGRAPH-4E8CdIDEOGRAPH-591AdIDEOGRAPH-89E3dIDEOGRAPH-5929dIDEOGRAPH-4EA4dIDEOGRAPH-6620dIDEOGRAP
H-7121dIDEOGRAPH-6599dIDEOGRAPH-524DdIDEOGRAPH-5F8CdIDEOGRAPH-518DdIDEOGRAPH-65B0dIDEOGRAPH-521
DdIDEOGRAPH-7D42dIDEOGRAPH-751FdIDEOGRAPH-8CA9dIDEOGRAPH-58F0dIDEOGRAPH-5439dIDEOGRAPH-6F14dIDE
OGRAPH-6295dIDEOGRAPH-6355dIDEOGRAPH-4E00dIDEOGRAPH-4E09dIDEOGRAPH-904AdIDEOGRAPH-5DE6dIDEOGRAP
H-4E2DdIDEOGRAPH-53F3dIDEOGRAPH-6307dIDEOGRAPH-8D70dIDEOGRAPH-6253dIDEOGRAPH-7981dIDEOGRAPH-7A7
AdIDEOGRAPH-5408dIDEOGRAPH-6E80dIDEOGRAPH-6709dIDEOGRAPH-6708dIDEOGRAPH-7533dIDEOGRAPH-5272dIDE
OGRAPH-55B6dIDEOGRAPH-914D@1F240aTORTOISE SHELL BRACKETED CJK UNIFIED IDEOGRAPH-672CfIDEOGRAPH-
4E09fIDEOGRAPH-4E8CfIDEOGRAPH-5B89fIDEOGRAPH-70B9fIDEOGRAPH-6253fIDEOGRAPH-76D7fIDEOGRAPH-52DDf
IDEOGRAPH-6557@1F250aCIRCLED IDEOGRAPH ADVANTAGEcACCEPT@1F260aROUNDED SYMBOL FOR FUdLUdSHOUdXId
SHUANGXIdCAI@1F300aCYCLONEaFOGGYaCLOSED UMBRELLAaNIGHT WITH STARSaSUNRISE OVER MOUNTAINSbaCITYS
CAPE AT DUSKaSUNSET OVER BUILDINGSaRAINBOWaBRIDGE AT NIGHTaWATER WAVEaVOLCANOaMILKY WAYaEARTH G
LOBE EUROPE-AFRICAcAMERICAScASIA-AUSTRALIAaGLOBE WITH MERIDIANSaNEW MOON SYMBOLaWAXING CRESCEN
T MOON SYMBOLaFIRST QUARTER MOON SYMBOLaWAXING GIBBOUS MOON SYMBOLaFULL MOON SYMBOLaWANING GIBB
OUS MOON SYMBOLaLAST QUARTER MOON SYMBOLaWANING CRESCENT MOON SYMBOLaCRESCENT MOONaNEW MOON WIT
H FACEaFIRST QUARTER MOON WITH FACEaLAST QUARTER MOON WITH FACEaFULL MOON WITH FACEaSUN WITH FA
CEaGLOWING STARaSHOOTING STARaTHERMOMETERaBLACK DROPLETaWHITE SUNcWITH SMALL CLOUDcBEHIND CLOUD
eWITH RAINaCLOUD WITH RAINcSNOWcLIGHTNINGcTORNADOaFOGaWIND BLOWING FACEaHOT DOGaTACOaBURRITOaCH
ESTNUTaSEEDLINGaEVERGREEN TREEaDECIDUOUS TREEaPALM TREEaCACTUSaHOT PEPPERaTULIPaCHERRY BLOSSOMa
ROSEaHIBISCUSaSUNFLOWERaBLOSSOMaEAR OF MAIZEcRICEaHERBaFOUR LEAF CLOVERaMAPLE LEAFaFALLEN LEAFa
LEAF FLUTTERING IN WINDaMUSHROOMaTOMATOaAUBERGINEaGRAPESaMELONaWATERMELONaTANGERINEaLEMONaBANAN
AaPINEAPPLEaRED APPLEaGREEN APPLEaPEARaPEACHaCHERRIESaSTRAWBERRYaHAMBURGERaSLICE OF PIZZAaMEA
T ON BONEaPOULTRY LEGaRICE CRACKERbBALLaCOOKED RICEaCURRY AND RICEaSTEAMING BOWLaSPAGHETTIaBREA
DaFRENCH FRIESaROASTED SWEET POTATOaDANGOaODENaSUSHIaFRIED SHRIMPaFISH CAKE WITH SWIRL DESIGNaS
OFT ICE CREAMaSHAVED ICEaICE CREAMaDOUGHNUTaCOOKIEaCHOCOLATE BARaCANDYaLOLLIPOPaCUSTARDaHONEY P
OTaSHORTCAKEaBENTO BOXaPOT OF FOODaCOOKINGaFORK AND KNIFEaTEACUP WITHOUT HANDLEaSAKE BOTTLE AN
D CUPaWINE GLASSaCOCKTAIL GLASSaTROPICAL DRINKaBEER MUGaCLINKING BEER MUGSaBABY BOTTLEaFORK AN
D KNIFE WITH PLATEaBOTTLE WITH POPPING CORKaPOPCORNaRIBBONaWRAPPED PRESENTaBIRTHDAY CAKEaJACK-O
-LANTERNaCHRISTMAS TREEaFATHER CHRISTMASaFIREWORKSaFIREWORK SPARKLERaBALLOONaPARTY POPPERaCONFE
TTI BALLaTANABATA TREEaCROSSED FLAGSaPINE DECORATIONaJAPANESE DOLLSaCARP STREAMERaWIND CHIMEaMO
ON VIEWING CEREMONYaSCHOOL SATCHELaGRADUATION CAPaHEART WITH TIP ON THE LEFTaBOUQUET OF FLOWERS
aMILITARY MEDALaREMINDER RIBBONaMUSICAL KEYBOARD WITH JACKSaSTUDIO MICROPHONEaLEVEL SLIDERaCONT
ROL KNOBSaBEAMED ASCENDING MUSICAL NOTESbDESCENDING MUSICAL NOTESaFILM FRAMESaADMISSION TICKETS
aCAROUSEL HORSEaFERRIS WHEELaROLLER COASTERaFISHING POLE AND FISHaMICROPHONEaMOVIE CAMERAaCINEM
AaHEADPHONEaARTIST PALETTEaTOP HATaCIRCUS TENTaTICKETaCLAPPER BOARDaPERFORMING ARTSaVIDEO GAMEa
DIRECT HITaSLOT MACHINEaBILLIARDSaGAME DIEaBOWLINGaFLOWER PLAYING CARDSaMUSICAL NOTEaMULTIPLE M
USICAL NOTESaSAXOPHONEaGUITARaMUSICAL KEYBOARDaTRUMPETaVIOLINaMUSICAL SCOREaRUNNING SHIRT WIT
H SASHaTENNIS RACQUET AND BALLaSKI AND SKI BOOTaBASKETBALL AND HOOPaCHEQUERED FLAGaSNOWBOARDERa
RUNNERaSURFERaSPORTS MEDALaTROPHYaHORSE RACINGaAMERICAN FOOTBALLaRUGBY FOOTBALLaSWIMMERaWEIGH
T LIFTERaGOLFERaRACING MOTORCYCLEbCARaCRICKET BAT AND BALLaVOLLEYBALLaFIELD HOCKEY STICK AND BA
LLaICE HOCKEY STICK AND PUCKaTABLE TENNIS PADDLE AND BALLaSNOW CAPPED MOUNTAINaCAMPINGaBEACH WI
TH UMBRELLAaBUILDING CONSTRUCTIONaHOUSE BUILDINGSaCITYSCAPEaDERELICT HOUSE BUILDINGaCLASSICAL B
UILDINGaDESERTbISLANDaNATIONAL PARKaSTADIUMaHOUSE BUILDINGbWITH GARDENaOFFICE BUILDINGaJAPANES
E POST OFFICEaEUROPEAN POST OFFICEaHOSPITALaBANKaAUTOMATED TELLER MACHINEaHOTELaLOVE HOTELaCONV
ENIENCE STOREaSCHOOLaDEPARTMENT STOREaFACTORYaIZAKAYA LANTERNaJAPANESE CASTLEaEUROPEAN CASTLEaW
HITE PENNANTaBLACK PENNANTaWAVING WHITE FLAGbBLACK FLAGaROSETTEaBLACK ROSETTEaLABELaBADMINTON R
ACQUET AND SHUTTLECOCKaBOW AND ARROWaAMPHORAaEMOJI MODIFIER FITZPATRICK TYPE-1-2dTYPE-3dTYPE-4d
TYPE-5dTYPE-6aRATaMOUSEaOXaWATER BUFFALOaCOWaTIGERaLEOPARDaRABBITaCATaDRAGONaCROCODILEaWHALEaSN
AILaSNAKEaHORSEaRAMaGOATaSHEEPaMONKEYaROOSTERaCHICKENaDOGaPIGaBOARaELEPHANTaOCTOPUSaSPIRAL SHEL
LaBUGaANTaHONEYBEEaLADY BEETLEaFISHaTROPICAL FISHaBLOWFISHaTURTLEaHATCHING CHICKaBABY CHICKaFRO
NT-FACING BABY CHICKaBIRDaPENGUINaKOALAaPOODLEaDROMEDARY CAMELaBACTRIAN CAMELaDOLPHINaMOUSE FAC
EaCOW FACEaTIGER FACEaRABBIT FACEaCAT FACEaDRAGON FACEaSPOUTING WHALEaHORSE FACEaMONKEY FACEaDO
G FACEaPIG FACEaFROG FACEaHAMSTER FACEaWOLF FACEaBEAR FACEaPANDA FACEaPIG NOSEaPAW PRINTSaCHIPM
UNKaEYESaEYEaEARaNOSEaMOUTHaTONGUEaWHITE UP POINTING BACKHAND INDEXbDOWN POINTING BACKHAND INDE
XbLEFT POINTING BACKHAND INDEXbRIGHT POINTING BACKHAND INDEXaFISTED HAND SIGNaWAVING HAND SIGNa
OK HAND SIGNaTHUMBS UP SIGNbDOWN SIGNaCLAPPING HANDS SIGNaOPEN HANDS SIGNaCROWNaWOMANS HATaEYEG
LASSESaNECKTIEaT-SHIRTaJEANSaDRESSaKIMONOaBIKINIaWOMANS CLOTHESaPURSEaHANDBAGaPOUCHaMANS SHOEaA
THLETIC SHOEaHIGH-HEELED SHOEaWOMANS SANDALbBOOTSaFOOTPRINTSaBUST IN SILHOUETTEaBUSTS IN SILHOU
ETTEaBOYaGIRLaMANaWOMANaFAMILYaMAN AND WOMAN HOLDING HANDSaTWO MEN HOLDING HANDSbWOMEN HOLDIN
G HANDSaPOLICE OFFICERaWOMAN WITH BUNNY EARSaBRIDE WITH VEILaPERSON WITH BLOND HAIRaMAN WITH GU
A PI MAOcTURBANaOLDER MANbWOMANaBABYaCONSTRUCTION WORKERaPRINCESSaJAPANESE OGREbGOBLINaGHOSTaBA
BY ANGELaEXTRATERRESTRIAL ALIENaALIEN MONSTERaIMPaSKULLaINFORMATION DESK PERSONaGUARDSMANaDANCE
RaLIPSTICKaNAIL POLISHaFACE MASSAGEaHAIRCUTaBARBER POLEaSYRINGEaPILLaKISS MARKaLOVE LETTERaRING
aGEM STONEaKISSaBOUQUETaCOUPLE WITH HEARTaWEDDINGaBEATING HEARTaBROKEN HEARTaTWO HEARTSaSPARKLI
NG HEARTaGROWING HEARTaHEART WITH ARROWaBLUE HEARTaGREEN HEARTaYELLOW HEARTaPURPLE HEARTaHEAR
T WITH RIBBONaREVOLVING HEARTSaHEART DECORATIONaDIAMOND SHAPE WITH A DOT INSIDEaELECTRIC LIGH
T BULBaANGER SYMBOLaBOMBaSLEEPING SYMBOLaCOLLISION SYMBOLaSPLASHING SWEAT SYMBOLaDROPLETaDASH S
YMBOLaPILE OF POOaFLEXED BICEPSaDIZZY SYMBOLaSPEECH BALLOONaTHOUGHT BALLOONaWHITE FLOWERaHUNDRE
D POINTS SYMBOLaMONEY BAGaCURRENCY EXCHANGEaHEAVY DOLLAR SIGNaCREDIT CARDaBANKNOTE WITH YEN SIG
NcDOLLAR SIGNcEURO SIGNcPOUND SIGNaMONEY WITH WINGSaCHART WITH UPWARDS TREND AND YEN SIGNaSEATa
PERSONAL COMPUTERaBRIEFCASEaMINIDISCaFLOPPY DISKaOPTICAL DISCaDVDaFILE FOLDERaOPEN FILE FOLDERa
PAGE WITH CURLbFACING UPaCALENDARaTEAR-OFF CALENDARaCARD INDEXaCHART WITH UPWARDS TRENDcDOWNWAR
DS TRENDaBAR CHARTaCLIPBOARDaPUSHPINaROUND PUSHPINaPAPERCLIPaSTRAIGHT RULERaTRIANGULAR RULERaBO
OKMARK TABSaLEDGERaNOTEBOOKbWITH DECORATIVE COVERaCLOSED BOOKaOPEN BOOKaGREEN BOOKaBLUE BOOKaOR
ANGE BOOKaBOOKSaNAME BADGEaSCROLLaMEMOaTELEPHONE RECEIVERaPAGERaFAX MACHINEaSATELLITE ANTENNAaP
UBLIC ADDRESS LOUDSPEAKERaCHEERING MEGAPHONEaOUTBOX TRAYaINBOX TRAYaPACKAGEaE-MAIL SYMBOLaINCOM
ING ENVELOPEaENVELOPE WITH DOWNWARDS ARROW ABOVEaCLOSED MAILBOX WITH LOWERED FLAGdRAISED FLAGaO
PEN MAILBOX WITH RAISED FLAGdLOWERED FLAGaPOSTBOXaPOSTAL HORNaNEWSPAPERaMOBILE PHONEcWITH RIGHT
WARDS ARROW AT LEFTaVIBRATION MODEaMOBILE PHONE OFFaNO MOBILE PHONESaANTENNA WITH BARSaCAMERAbW
ITH FLASHaVIDEO CAMERAaTELEVISIONaRADIOaVIDEOCASSETTEaFILM PROJECTORaPORTABLE STEREOaPRAYER BEA
DSaTWISTED RIGHTWARDS ARROWSaCLOCKWISE RIGHTWARDS AND LEFTWARDS OPEN CIRCLE ARROWShWITH CIRCLE
D ONE OVERLAYbDOWNWARDS AND UPWARDS OPEN CIRCLE ARROWSaANTICLOCKWISE DOWNWARDS AND UPWARDS OPE
N CIRCLE ARROWSaLOW BRIGHTNESS SYMBOLaHIGH BRIGHTNESS SYMBOLaSPEAKER WITH CANCELLATION STROKEbb
WITH ONE SOUND WAVEcTHREE SOUND WAVESaBATTERYaELECTRIC PLUGaLEFT-POINTING MAGNIFYING GLASSaRIGH
T-POINTING MAGNIFYING GLASSaLOCK WITH INK PENaCLOSED LOCK WITH KEYaKEYaLOCKaOPEN LOCKaBELLbWIT
H CANCELLATION STROKEaBOOKMARKaLINK SYMBOLaRADIO BUTTONaBACK WITH LEFTWARDS ARROW ABOVEaEND WIT
H LEFTWARDS ARROW ABOVEaON WITH EXCLAMATION MARK WITH LEFT RIGHT ARROW ABOVEaSOON WITH RIGHTWAR
DS ARROW ABOVEaTOP WITH UPWARDS ARROW ABOVEaNO ONE UNDER EIGHTEEN SYMBOLaKEYCAP TENaINPUT SYMBO
L FOR LATIN CAPITAL LETTERSeSMALL LETTERSdNUMBERSdSYMBOLSdLATIN LETTERSaFIREaELECTRIC TORCHaWRE
NCHaHAMMERaNUT AND BOLTaHOCHOaPISTOLaMICROSCOPEaTELESCOPEaCRYSTAL BALLaSIX POINTED STAR WITH MI
DDLE DOTaJAPANESE SYMBOL FOR BEGINNERaTRIDENT EMBLEMaBLACK SQUARE BUTTONaWHITE SQUARE BUTTONaLA
RGE RED CIRCLEbBLUE CIRCLEbORANGE DIAMONDbBLUE DIAMONDaSMALL ORANGE DIAMONDbBLUE DIAMONDaUP-POI
NTING RED TRIANGLEaDOWN-POINTING RED TRIANGLEaUP-POINTING SMALL RED TRIANGLEaDOWN-POINTING SMAL
L RED TRIANGLEaLOWER RIGHT SHADOWED WHITE CIRCLEaUPPER RIGHT SHADOWED WHITE CIRCLEaCIRCLED CROS
S POMMEEaCROSS POMMEE WITH HALF-CIRCLE BELOWcaNOTCHED LEFT SEMICIRCLE WITH THREE DOTSbRIGHT SEM
ICIRCLE WITH THREE DOTSaSYMBOL FOR MARKS CHAPTERaWHITE LATIN CROSSaHEAVY LATIN CROSSaCELTIC CRO
SSaOM SYMBOLaDOVE OF PEACEaKAABAaMOSQUEaSYNAGOGUEaMENORAH WITH NINE BRANCHESaBOWL OF HYGIEIAaCL
OCK FACE ONE OCLOCKcTWO OCLOCKcTHREE OCLOCKcFOUR OCLOCKcFIVE OCLOCKcSIX OCLOCKcSEVEN OCLOCKcEIG
HT OCLOCKcNINE OCLOCKcTEN OCLOCKcELEVEN OCLOCKcTWELVE OCLOCKcONE-THIRTYcTWO-THIRTYcTHREE-THIRTY
cFOUR-THIRTYcFIVE-THIRTYcSIX-THIRTYcSEVEN-THIRTYcEIGHT-THIRTYcNINE-THIRTYcTEN-THIRTYcELEVEN-THI
RTYcTWELVE-THIRTYaRIGHT SPEAKERcWITH ONE SOUND WAVEdTHREE SOUND WAVESaBULLHORNbWITH SOUND WAVES
aRINGING BELLaBOOKaCANDLEaMANTELPIECE CLOCKaBLACK SKULL AND CROSSBONESaNO PIRACYaHOLEaMAN IN BU
SINESS SUIT LEVITATINGaSLEUTH OR SPYaDARK SUNGLASSESaSPIDERbWEBaJOYSTICKaMAN DANCINGaLEFT HAN
D TELEPHONE RECEIVERaTELEPHONE RECEIVER WITH PAGEaRIGHT HAND TELEPHONE RECEIVERaWHITE TOUCHTON
E TELEPHONEaBLACK TOUCHTONE TELEPHONEaTELEPHONE ON TOP OF MODEMaCLAMSHELL MOBILE PHONEaBACK O
F ENVELOPEaSTAMPED ENVELOPEaENVELOPE WITH LIGHTNINGaFLYING ENVELOPEaPEN OVER STAMPED ENVELOPEaL
INKED PAPERCLIPSaBLACK PUSHPINaLOWER LEFT PENCILcBALLPOINT PENcFOUNTAIN PENcPAINTBRUSHcCRAYONaL
EFT WRITING HANDaTURNED OK HAND SIGNaRAISED HAND WITH FINGERS SPLAYEDaREVERSED RAISED HAND WIT
H FINGERS SPLAYEDbTHUMBS UP SIGNcDOWN SIGNbVICTORY HANDbHAND WITH MIDDLE FINGER EXTENDEDaRAISE
D HAND WITH PART BETWEEN MIDDLE AND RING FINGERSaWHITE DOWN POINTING LEFT HAND INDEXaSIDEWAYS W
HITE LEFT POINTING INDEXcRIGHT POINTING INDEXbBLACK LEFT POINTING INDEXcRIGHT POINTING INDEXaBL
ACK LEFT POINTING BACKHAND INDEXbRIGHT POINTING BACKHAND INDEXaSIDEWAYS WHITE UP POINTING INDEX
cDOWN POINTING INDEXbBLACK UP POINTING INDEXcDOWN POINTING INDEXaBLACK UP POINTING BACKHAND IND
EXbDOWN POINTING BACKHAND INDEXbHEARTaDESKTOP COMPUTERaKEYBOARD AND MOUSEaTHREE NETWORKED COMPU
TERSaPRINTERaPOCKET CALCULATORaBLACK HARD SHELL FLOPPY DISKaWHITE HARD SHELL FLOPPY DISKaSOFT S
HELL FLOPPY DISKaTAPE CARTRIDGEaWIRED KEYBOARDaONE BUTTON MOUSEaTWO BUTTON MOUSEaTHREE BUTTON M
OUSEaTRACKBALLaOLD PERSONAL COMPUTERaHARD DISKaSCREENaPRINTER ICONaFAX ICONaOPTICAL DISC ICONaD
OCUMENT WITH TEXTdAND PICTUREcPICTUREaFRAME WITH PICTUREcTILEScAN XaBLACK FOLDERaFOLDERaOPEN FO
LDERaCARD INDEX DIVIDERSbFILE BOXaFILE CABINETaEMPTY NOTEcPAGEcPADaNOTEbPAGEbPADaEMPTY DOCUMENT
bPAGEbPAGESaDOCUMENTaPAGEaPAGESaWASTEBASKETaSPIRAL NOTE PADbCALENDAR PADaDESKTOP WINDOWaMINIMIZ
EaMAXIMIZEaOVERLAPaCLOCKWISE RIGHT AND LEFT SEMICIRCLE ARROWSaCANCELLATION XaINCREASE FONT SIZ
E SYMBOLaDECREASE FONT SIZE SYMBOLaCOMPRESSIONaOLD KEYaROLLED-UP NEWSPAPERaPAGE WITH CIRCLED TE
XTaSTOCK CHARTaDAGGER KNIFEaLIPSaSPEAKING HEAD IN SILHOUETTEaTHREE RAYS ABOVEcBELOWcLEFTcRIGHTa
LEFT SPEECH BUBBLEaRIGHT SPEECH BUBBLEaTWO SPEECH BUBBLESaTHREE SPEECH BUBBLESaLEFT THOUGHT BUB
BLEaRIGHT THOUGHT BUBBLEaLEFT ANGER BUBBLEaRIGHT ANGER BUBBLEaMOOD BUBBLEaLIGHTNING MOOD BUBBLE
caBALLOT BOX WITH BALLOTbSCRIPT XbBOX WITH SCRIPT XbBOLD SCRIPT XbBOX WITH BOLD SCRIPT XaLIGH
T CHECK MARKaBALLOT BOX WITH BOLD CHECKaWORLD MAPaMOUNT FUJIaTOKYO TOWERaSTATUE OF LIBERTYaSILH
OUETTE OF JAPANaMOYAIaGRINNING FACEcWITH SMILING EYESaFACE WITH TEARS OF JOYaSMILING FACE WIT
H OPEN MOUTHfAND SMILING EYESgCOLD SWEATgTIGHTLY-CLOSED EYESdHALOdHORNSaWINKING FACEaSMILING FA
CE WITH SMILING EYESaFACE SAVOURING DELICIOUS FOODaRELIEVED FACEaSMILING FACE WITH HEART-SHAPE
D EYESdSUNGLASSESaSMIRKING FACEaNEUTRAL FACEaEXPRESSIONLESS FACEaUNAMUSED FACEaFACE WITH COLD S
WEATaPENSIVE FACEaCONFUSED FACEaCONFOUNDED FACEaKISSING FACEaFACE THROWING A KISSaKISSING FAC
E WITH SMILING EYESdCLOSED EYESaFACE WITH STUCK-OUT TONGUEeAND WINKING EYEfTIGHTLY-CLOSED EYESa
DISAPPOINTED FACEaWORRIED FACEaANGRY FACEaPOUTING FACEaCRYING FACEaPERSEVERING FACEaFACE WITH L
OOK OF TRIUMPHaDISAPPOINTED BUT RELIEVED FACEaFROWNING FACE WITH OPEN MOUTHaANGUISHED FACEaFEAR
FUL FACEaWEARY FACEaSLEEPY FACEaTIRED FACEaGRIMACING FACEaLOUDLY CRYING FACEaFACE WITH OPEN MOU
THaHUSHED FACEaFACE WITH OPEN MOUTH AND COLD SWEATbSCREAMING IN FEARaASTONISHED FACEaFLUSHED FA
CEaSLEEPING FACEaDIZZY FACEaFACE WITHOUT MOUTHbWITH MEDICAL MASKaGRINNING CAT FACE WITH SMILIN
G EYESaCAT FACE WITH TEARS OF JOYaSMILING CAT FACE WITH OPEN MOUTHeHEART-SHAPED EYESaCAT FACE W
ITH WRY SMILEaKISSING CAT FACE WITH CLOSED EYESaPOUTING CAT FACEaCRYING CAT FACEaWEARY CAT FACE
aSLIGHTLY FROWNING FACEbSMILING FACEaUPSIDE-DOWN FACEaFACE WITH ROLLING EYEScNO GOOD GESTUREcO
K GESTUREaPERSON BOWING DEEPLYaSEE-NO-EVIL MONKEYaHEAR-NO-EVIL MONKEYaSPEAK-NO-EVIL MONKEYaHAPP
Y PERSON RAISING ONE HANDaPERSON RAISING BOTH HANDS IN CELEBRATIONbFROWNINGbWITH POUTING FACEcF
OLDED HANDSaNORTH WEST POINTING LEAFaSOUTH WEST POINTING LEAFaNORTH EAST POINTING LEAFaSOUTH EA
ST POINTING LEAFaTURNED NORTH WEST POINTING LEAFbSOUTH WEST POINTING LEAFbNORTH EAST POINTING L
EAFbSOUTH EAST POINTING LEAFaNORTH WEST POINTING VINE LEAFaSOUTH WEST POINTING VINE LEAFaNORT
H EAST POINTING VINE LEAFaSOUTH EAST POINTING VINE LEAFaHEAVY NORTH WEST POINTING VINE LEAFbSOU
TH WEST POINTING VINE LEAFbNORTH EAST POINTING VINE LEAFbSOUTH EAST POINTING VINE LEAFaNORTH WE
ST POINTING BUDaSOUTH WEST POINTING BUDaNORTH EAST POINTING BUDaSOUTH EAST POINTING BUDaHEAVY N
ORTH WEST POINTING BUDbSOUTH WEST POINTING BUDbNORTH EAST POINTING BUDbSOUTH EAST POINTING BUDa
HOLLOW QUILT SQUARE ORNAMENTeIN BLACK SQUAREaSOLID QUILT SQUARE ORNAMENTeIN BLACK SQUAREaLEFTWA
RDS ROCKETaUPWARDS ROCKETaRIGHTWARDS ROCKETaDOWNWARDS ROCKETaSCRIPT LIGATURE ET ORNAMENTaHEAV
Y SCRIPT LIGATURE ET ORNAMENTaLIGATURE OPEN ET ORNAMENTaHEAVY LIGATURE OPEN ET ORNAMENTbAMPERSA
ND ORNAMENTaSWASH AMPERSAND ORNAMENTaSANS-SERIF HEAVY DOUBLE TURNED COMMA QUOTATION MARK ORNAME
NTdCOMMA QUOTATION MARK ORNAMENTcLOW DOUBLE COMMA QUOTATION MARK ORNAMENTaHEAVY INTERROBANG ORN
AMENTaSANS-SERIF INTERROBANG ORNAMENTaHEAVY SANS-SERIF INTERROBANG ORNAMENTaVERY HEAVY SOLIDUSc
REVERSE SOLIDUSaCHECKER BOARDaREVERSE CHECKER BOARDaROCKETaHELICOPTERaSTEAM LOCOMOTIVEaRAILWA
Y CARaHIGH-SPEED TRAINcWITH BULLET NOSEaTRAINaMETROaLIGHT RAILaSTATIONaTRAMbCARaBUSaONCOMING BU
SaTROLLEYBUSaBUS STOPaMINIBUSaAMBULANCEaFIRE ENGINEaPOLICE CARaONCOMING POLICE CARaTAXIaONCOMIN
G TAXIaAUTOMOBILEaONCOMING AUTOMOBILEaRECREATIONAL VEHICLEaDELIVERY TRUCKaARTICULATED LORRYaTRA
CTORaMONORAILaMOUNTAIN RAILWAYaSUSPENSION RAILWAYaMOUNTAIN CABLEWAYaAERIAL TRAMWAYaSHIPaROWBOAT
aSPEEDBOATaHORIZONTAL TRAFFIC LIGHTaVERTICAL TRAFFIC LIGHTaCONSTRUCTION SIGNaPOLICE CARS REVOLV
ING LIGHTaTRIANGULAR FLAG ON POSTaDOORaNO ENTRY SIGNaSMOKING SYMBOLaNO SMOKING SYMBOLaPUT LITTE
R IN ITS PLACE SYMBOLaDO NOT LITTER SYMBOLaPOTABLE WATER SYMBOLaNON-POTABLE WATER SYMBOLaBICYCL
EaNO BICYCLESaBICYCLISTaMOUNTAIN BICYCLISTaPEDESTRIANaNO PEDESTRIANSaCHILDREN CROSSINGaMENS SYM
BOLaWOMENS SYMBOLaRESTROOMaBABY SYMBOLaTOILETaWATER CLOSETaSHOWERaBATHaBATHTUBaPASSPORT CONTROL
aCUSTOMSaBAGGAGE CLAIMaLEFT LUGGAGEaTRIANGLE WITH ROUNDED CORNERSaPROHIBITED SIGNaCIRCLED INFOR
MATION SOURCEaBOYS SYMBOLaGIRLS SYMBOLaCOUCH AND LAMPaSLEEPING ACCOMMODATIONaSHOPPING BAGSaBELL
HOP BELLaBEDaPLACE OF WORSHIPaOCTAGONAL SIGNaSHOPPING TROLLEYaSTUPAaPAGODAaHINDU TEMPLEaHUTaELE
VATOR@1F6DDaPLAYGROUND SLIDEaWHEELaRING BUOYaHAMMER AND WRENCHaSHIELDaOIL DRUMaMOTORWAYaRAILWA
Y TRACKaMOTOR BOATaUP-POINTING MILITARY AIRPLANEbAIRPLANEbSMALL AIRPLANEaSMALL AIRPLANEaNORTHEA
ST-POINTING AIRPLANEaAIRPLANE DEPARTUREbARRIVING@1F6F0aSATELLITEaONCOMING FIRE ENGINEaDIESEL LO
COMOTIVEaPASSENGER SHIPaSCOOTERaMOTOR SCOOTERaCANOEaSLEDaFLYING SAUCERaSKATEBOARDaAUTO RICKSHAW
aPICKUP TRUCKaROLLER SKATE@1F700aALCHEMICAL SYMBOL FOR QUINTESSENCEdAIRdFIREdEARTHdWATERdAQUAFO
RTISdAQUA REGIAeREGIA-2eVITAEeVITAE-2dVINEGARdVINEGAR-2dVINEGAR-3dSULFURdPHILOSOPHERS SULFURdBL
ACK SULFURdMERCURY SUBLIMATEeSUBLIMATE-2eSUBLIMATE-3dCINNABARdSALTdNITREdVITRIOLdVITRIOL-2dROC
K SALTeSALT-2dGOLDdSILVERdIRON OREeORE-2dCROCUS OF IRONdREGULUS OF IRONdCOPPER OREdIRON-COPPE
R OREdSUBLIMATE OF COPPERdCROCUS OF COPPERfCOPPER-2dCOPPER ANTIMONIATEdSALT OF COPPER ANTIMONIA
TEdSUBLIMATE OF SALT OF COPPERdVERDIGRISdTIN OREdLEAD OREdANTIMONY OREdSUBLIMATE OF ANTIMONYdSA
LT OF ANTIMONYdSUBLIMATE OF SALT OF ANTIMONYdVINEGAR OF ANTIMONYdREGULUS OF ANTIMONYfANTIMONY-2
edREGULUS-2dREGULUS-3dREGULUS-4dALKALIdALKALI-2dMARCASITEdSAL-AMMONIACdARSENICdREALGARdREALGAR-
2dAURIPIGMENTdBISMUTH OREdTARTARdTARTAR-2dQUICK LIMEdBORAXdBORAX-2dBORAX-3dALUMdOILdSPIRITdTINC
TUREdGUMdWAXdPOWDERdCALXdTUTTYdCAPUT MORTUUMdSCEPTER OF JOVEdCADUCEUSdTRIDENTdSTARRED TRIDENTdL
ODESTONEdSOAPdURINEdHORSE DUNGdASHESdPOT ASHESdBRICKdPOWDERED BRICKdAMALGAMdSTRATUM SUPER STRAT
UMfSTRATUM-2dSUBLIMATIONdPRECIPITATEdDISTILLdDISSOLVEdDISSOLVE-2dPURIFYdPUTREFACTIONdCRUCIBLEdC
RUCIBLE-2dCRUCIBLE-3dCRUCIBLE-4dCRUCIBLE-5dALEMBICdBATH OF MARYfVAPOURSdRETORTdHOURdNIGHTdDAY-N
IGHTdMONTHdHALF DRAMeOUNCE@1F780aBLACK LEFT-POINTING ISOSCELES RIGHT TRIANGLEbUP-POINTING ISOSC
ELES RIGHT TRIANGLEbRIGHT-POINTING ISOSCELES RIGHT TRIANGLEbDOWN-POINTING ISOSCELES RIGHT TRIAN
GLEbSLIGHTLY SMALL CIRCLEaMEDIUM BOLD WHITE CIRCLEaBOLD WHITE CIRCLEaHEAVY WHITE CIRCLEaVERY HE
AVY WHITE CIRCLEaEXTREMELY HEAVY WHITE CIRCLEaWHITE CIRCLE CONTAINING BLACK SMALL CIRCLEaROUN
D TARGETaBLACK TINY SQUAREbSLIGHTLY SMALL SQUAREaLIGHT WHITE SQUAREaMEDIUM WHITE SQUAREaBOLD WH
ITE SQUAREaHEAVY WHITE SQUAREaVERY HEAVY WHITE SQUAREaEXTREMELY HEAVY WHITE SQUAREaWHITE SQUAR
E CONTAINING BLACK VERY SMALL SQUAREeMEDIUM SQUAREaSQUARE TARGETaBLACK TINY DIAMONDbVERY SMAL
L DIAMONDbMEDIUM SMALL DIAMONDaWHITE DIAMOND CONTAINING BLACK VERY SMALL DIAMONDeMEDIUM DIAMOND
aDIAMOND TARGETaBLACK TINY LOZENGEbVERY SMALL LOZENGEbMEDIUM SMALL LOZENGEaWHITE LOZENGE CONTAI
NING BLACK SMALL LOZENGEaTHIN GREEK CROSSaLIGHT GREEK CROSSaMEDIUM GREEK CROSSaBOLD GREEK CROSS
aVERY BOLD GREEK CROSSbHEAVY GREEK CROSSaEXTREMELY HEAVY GREEK CROSSaTHIN SALTIREaLIGHT SALTIRE
aMEDIUM SALTIREaBOLD SALTIREaHEAVY SALTIREaVERY HEAVY SALTIREaEXTREMELY HEAVY SALTIREaLIGHT FIV
E SPOKED ASTERISKaMEDIUM FIVE SPOKED ASTERISKaBOLD FIVE SPOKED ASTERISKaHEAVY FIVE SPOKED ASTER
ISKaVERY HEAVY FIVE SPOKED ASTERISKaEXTREMELY HEAVY FIVE SPOKED ASTERISKaLIGHT SIX SPOKED ASTER
ISKaMEDIUM SIX SPOKED ASTERISKaBOLD SIX SPOKED ASTERISKaHEAVY SIX SPOKED ASTERISKaVERY HEAVY SI
X SPOKED ASTERISKaEXTREMELY HEAVY SIX SPOKED ASTERISKaLIGHT EIGHT SPOKED ASTERISKaMEDIUM EIGH
T SPOKED ASTERISKaBOLD EIGHT SPOKED ASTERISKaHEAVY EIGHT SPOKED ASTERISKaVERY HEAVY EIGHT SPOKE
D ASTERISKaLIGHT THREE POINTED BLACK STARaMEDIUM THREE POINTED BLACK STARaTHREE POINTED BLACK S
TARaMEDIUM THREE POINTED PINWHEEL STARaLIGHT FOUR POINTED BLACK STARaMEDIUM FOUR POINTED BLAC
K STARaFOUR POINTED BLACK STARaMEDIUM FOUR POINTED PINWHEEL STARaREVERSE LIGHT FOUR POINTED PIN
WHEEL STARaLIGHT FIVE POINTED BLACK STARaHEAVY FIVE POINTED BLACK STARaMEDIUM SIX POINTED BLAC
K STARaHEAVY SIX POINTED BLACK STARaSIX POINTED PINWHEEL STARaMEDIUM EIGHT POINTED BLACK STARaH
EAVY EIGHT POINTED BLACK STARaVERY HEAVY EIGHT POINTED BLACK STARaHEAVY EIGHT POINTED PINWHEE
L STARaLIGHT TWELVE POINTED BLACK STARaHEAVY TWELVE POINTED BLACK STARdPINWHEEL STARaCIRCLED TR
IANGLEaNEGATIVE CIRCLED TRIANGLEaCIRCLED SQUAREaNEGATIVE CIRCLED SQUARE@1F7E0aLARGE ORANGE CIRC
LEbYELLOW CIRCLEbGREEN CIRCLEbPURPLE CIRCLEbBROWN CIRCLEbRED SQUAREbBLUE SQUAREbORANGE SQUAREbY
ELLOW SQUAREbGREEN SQUAREbPURPLE SQUAREbBROWN SQUARE@1F7F0aHEAVY EQUALS SIGN@1F800aLEFTWARDS AR
ROW WITH SMALL TRIANGLE ARROWHEADaUPWARDS ARROW WITH SMALL TRIANGLE ARROWHEADaRIGHTWARDS ARRO
W WITH SMALL TRIANGLE ARROWHEADaDOWNWARDS ARROW WITH SMALL TRIANGLE ARROWHEADaLEFTWARDS ARROW W
ITH MEDIUM TRIANGLE ARROWHEADaUPWARDS ARROW WITH MEDIUM TRIANGLE ARROWHEADaRIGHTWARDS ARROW WIT
H MEDIUM TRIANGLE ARROWHEADaDOWNWARDS ARROW WITH MEDIUM TRIANGLE ARROWHEADaLEFTWARDS ARROW WIT
H LARGE TRIANGLE ARROWHEADaUPWARDS ARROW WITH LARGE TRIANGLE ARROWHEADaRIGHTWARDS ARROW WITH LA
RGE TRIANGLE ARROWHEADaDOWNWARDS ARROW WITH LARGE TRIANGLE ARROWHEAD@1F810aLEFTWARDS ARROW WIT
H SMALL EQUILATERAL ARROWHEADaUPWARDS ARROW WITH SMALL EQUILATERAL ARROWHEADaRIGHTWARDS ARROW W
ITH SMALL EQUILATERAL ARROWHEADaDOWNWARDS ARROW WITH SMALL EQUILATERAL ARROWHEADaLEFTWARDS ARRO
W WITH EQUILATERAL ARROWHEADaUPWARDS ARROW WITH EQUILATERAL ARROWHEADaRIGHTWARDS ARROW WITH EQU
ILATERAL ARROWHEADaDOWNWARDS ARROW WITH EQUILATERAL ARROWHEADaHEAVY LEFTWARDS ARROW WITH EQUILA
TERAL ARROWHEADbUPWARDS ARROW WITH EQUILATERAL ARROWHEADbRIGHTWARDS ARROW WITH EQUILATERAL ARRO
WHEADbDOWNWARDS ARROW WITH EQUILATERAL ARROWHEADbLEFTWARDS ARROW WITH LARGE EQUILATERAL ARROWHE
ADbUPWARDS ARROW WITH LARGE EQUILATERAL ARROWHEADbRIGHTWARDS ARROW WITH LARGE EQUILATERAL ARROW
HEADbDOWNWARDS ARROW WITH LARGE EQUILATERAL ARROWHEADaLEFTWARDS TRIANGLE-HEADED ARROW WITH NARR
OW SHAFTaUPWARDS TRIANGLE-HEADED ARROW WITH NARROW SHAFTaRIGHTWARDS TRIANGLE-HEADED ARROW WIT
H NARROW SHAFTaDOWNWARDS TRIANGLE-HEADED ARROW WITH NARROW SHAFTaLEFTWARDS TRIANGLE-HEADED ARRO
W WITH MEDIUM SHAFTaUPWARDS TRIANGLE-HEADED ARROW WITH MEDIUM SHAFTaRIGHTWARDS TRIANGLE-HEADE
D ARROW WITH MEDIUM SHAFTaDOWNWARDS TRIANGLE-HEADED ARROW WITH MEDIUM SHAFTaLEFTWARDS TRIANGLE-
HEADED ARROW WITH BOLD SHAFTaUPWARDS TRIANGLE-HEADED ARROW WITH BOLD SHAFTaRIGHTWARDS TRIANGLE-
HEADED ARROW WITH BOLD SHAFTaDOWNWARDS TRIANGLE-HEADED ARROW WITH BOLD SHAFTaLEFTWARDS TRIANGLE
-HEADED ARROW WITH HEAVY SHAFTaUPWARDS TRIANGLE-HEADED ARROW WITH HEAVY SHAFTaRIGHTWARDS TRIANG
LE-HEADED ARROW WITH HEAVY SHAFTaDOWNWARDS TRIANGLE-HEADED ARROW WITH HEAVY SHAFTaLEFTWARDS TRI
ANGLE-HEADED ARROW WITH VERY HEAVY SHAFTaUPWARDS TRIANGLE-HEADED ARROW WITH VERY HEAVY SHAFTaRI
GHTWARDS TRIANGLE-HEADED ARROW WITH VERY HEAVY SHAFTaDOWNWARDS TRIANGLE-HEADED ARROW WITH VER
Y HEAVY SHAFTaLEFTWARDS FINGER-POST ARROWaUPWARDS FINGER-POST ARROWaRIGHTWARDS FINGER-POST ARRO
WaDOWNWARDS FINGER-POST ARROWaLEFTWARDS SQUARED ARROWaUPWARDS SQUARED ARROWaRIGHTWARDS SQUARE
D ARROWaDOWNWARDS SQUARED ARROWaLEFTWARDS COMPRESSED ARROWaUPWARDS COMPRESSED ARROWaRIGHTWARD
S COMPRESSED ARROWaDOWNWARDS COMPRESSED ARROWaLEFTWARDS HEAVY COMPRESSED ARROWaUPWARDS HEAVY CO
MPRESSED ARROWaRIGHTWARDS HEAVY COMPRESSED ARROWaDOWNWARDS HEAVY COMPRESSED ARROWaLEFTWARDS HEA
VY ARROWaUPWARDS HEAVY ARROWaRIGHTWARDS HEAVY ARROWaDOWNWARDS HEAVY ARROW@1F850aLEFTWARDS SANS-
SERIF ARROWaUPWARDS SANS-SERIF ARROWaRIGHTWARDS SANS-SERIF ARROWaDOWNWARDS SANS-SERIF ARROWaNOR
TH WEST SANS-SERIF ARROWbEAST SANS-SERIF ARROWaSOUTH EAST SANS-SERIF ARROWbWEST SANS-SERIF ARRO
WaLEFT RIGHT SANS-SERIF ARROWaUP DOWN SANS-SERIF ARROW@1F860aWIDE-HEADED LEFTWARDS LIGHT BARB A
RROWbUPWARDS LIGHT BARB ARROWbRIGHTWARDS LIGHT BARB ARROWbDOWNWARDS LIGHT BARB ARROWbNORTH WES
T LIGHT BARB ARROWcEAST LIGHT BARB ARROWbSOUTH EAST LIGHT BARB ARROWcWEST LIGHT BARB ARROWbLEFT
WARDS BARB ARROWbUPWARDS BARB ARROWbRIGHTWARDS BARB ARROWbDOWNWARDS BARB ARROWbNORTH WEST BAR
B ARROWcEAST BARB ARROWbSOUTH EAST BARB ARROWcWEST BARB ARROWbLEFTWARDS MEDIUM BARB ARROWbUPWAR
DS MEDIUM BARB ARROWbRIGHTWARDS MEDIUM BARB ARROWbDOWNWARDS MEDIUM BARB ARROWbNORTH WEST MEDIU
M BARB ARROWcEAST MEDIUM BARB ARROWbSOUTH EAST MEDIUM BARB ARROWcWEST MEDIUM BARB ARROWbLEFTWAR
DS HEAVY BARB ARROWbUPWARDS HEAVY BARB ARROWbRIGHTWARDS HEAVY BARB ARROWbDOWNWARDS HEAVY BARB A
RROWbNORTH WEST HEAVY BARB ARROWcEAST HEAVY BARB ARROWbSOUTH EAST HEAVY BARB ARROWcWEST HEAVY B
ARB ARROWbLEFTWARDS VERY HEAVY BARB ARROWbUPWARDS VERY HEAVY BARB ARROWbRIGHTWARDS VERY HEAVY B
ARB ARROWbDOWNWARDS VERY HEAVY BARB ARROWbNORTH WEST VERY HEAVY BARB ARROWcEAST VERY HEAVY BAR
B ARROWbSOUTH EAST VERY HEAVY BARB ARROWcWEST VERY HEAVY BARB ARROW@1F890aLEFTWARDS TRIANGLE AR
ROWHEADaUPWARDS TRIANGLE ARROWHEADaRIGHTWARDS TRIANGLE ARROWHEADaDOWNWARDS TRIANGLE ARROWHEADaL
EFTWARDS WHITE ARROW WITHIN TRIANGLE ARROWHEADaUPWARDS WHITE ARROW WITHIN TRIANGLE ARROWHEADaRI
GHTWARDS WHITE ARROW WITHIN TRIANGLE ARROWHEADaDOWNWARDS WHITE ARROW WITHIN TRIANGLE ARROWHEADa
LEFTWARDS ARROW WITH NOTCHED TAILaUPWARDS ARROW WITH NOTCHED TAILaRIGHTWARDS ARROW WITH NOTCHE
D TAILaDOWNWARDS ARROW WITH NOTCHED TAILaHEAVY ARROW SHAFT WIDTH ONEeTWO THIRDSeONE HALFfTHIRDa
LEFTWARDS BOTTOM-SHADED WHITE ARROWaRIGHTWARDS BOTTOM SHADED WHITE ARROWaLEFTWARDS TOP SHADED W
HITE ARROWaRIGHTWARDS TOP SHADED WHITE ARROWaLEFTWARDS LEFT-SHADED WHITE ARROWaRIGHTWARDS RIGHT
-SHADED WHITE ARROWaLEFTWARDS RIGHT-SHADED WHITE ARROWaRIGHTWARDS LEFT-SHADED WHITE ARROWaLEFTW
ARDS BACK-TILTED SHADOWED WHITE ARROWaRIGHTWARDS BACK-TILTED SHADOWED WHITE ARROWaLEFTWARDS FRO
NT-TILTED SHADOWED WHITE ARROWaRIGHTWARDS FRONT-TILTED SHADOWED WHITE ARROWaWHITE ARROW SHAFT W
IDTH ONEeTWO THIRDS@1F8B0aARROW POINTING UPWARDS THEN NORTH WESTcRIGHTWARDS THEN CURVING SOUT
H WEST@1F900aCIRCLED CROSS FORMEE WITH FOUR DOTSeTWO DOTSdaLEFT HALF CIRCLE WITH FOUR DOTSeTHRE
E DOTSeTWO DOTSeDOTdaDOWNWARD FACING HOOKcNOTCHED HOOKcHOOK WITH DOTcNOTCHED HOOK WITH DOTaPINC
HED FINGERSaWHITE HEARTaBROWN HEARTaPINCHING HANDaZIPPER-MOUTH FACEaMONEY-MOUTH FACEaFACE WIT
H THERMOMETERaNERD FACEaTHINKING FACEaFACE WITH HEAD-BANDAGEaROBOT FACEaHUGGING FACEaSIGN OF TH
E HORNSaCALL ME HANDaRAISED BACK OF HANDaLEFT-FACING FISTaRIGHT-FACING FISTaHANDSHAKEaHAND WIT
H INDEX AND MIDDLE FINGERS CROSSEDaI LOVE YOU HAND SIGNaFACE WITH COWBOY HATaCLOWN FACEaNAUSEAT
ED FACEaROLLING ON THE FLOOR LAUGHINGaDROOLING FACEaLYING FACEaFACE PALMaSNEEZING FACEaFACE WIT
H ONE EYEBROW RAISEDaGRINNING FACE WITH STAR EYESdONE LARGE AND ONE SMALL EYEaFACE WITH FINGE
R COVERING CLOSED LIPSaSERIOUS FACE WITH SYMBOLS COVERING MOUTHaSMILING FACE WITH SMILING EYE
S AND HAND COVERING MOUTHaFACE WITH OPEN MOUTH VOMITINGaSHOCKED FACE WITH EXPLODING HEADaPREGNA
NT WOMANaBREAST-FEEDINGaPALMS UP TOGETHERaSELFIEaPRINCEaMAN IN TUXEDOaMOTHER CHRISTMASaSHRUGaPE
RSON DOING CARTWHEELaJUGGLINGaFENCERaMODERN PENTATHLONaWRESTLERSaWATER POLOaHANDBALLaDIVING MAS
KaWILTED FLOWERaDRUM WITH DRUMSTICKSaCLINKING GLASSESaTUMBLER GLASSaSPOONaGOAL NETaRIFLEaFIRS
T PLACE MEDALaSECOND PLACE MEDALaTHIRD PLACE MEDALaBOXING GLOVEaMARTIAL ARTS UNIFORMaCURLING ST
ONEaLACROSSE STICK AND BALLaSOFTBALLaFLYING DISCaCROISSANTaAVOCADOaCUCUMBERaBACONaPOTATOaCARROT
aBAGUETTE BREADaGREEN SALADaSHALLOW PAN OF FOODaSTUFFED FLATBREADaEGGaGLASS OF MILKaPEANUTSaKIW
IFRUITaPANCAKESaDUMPLINGaFORTUNE COOKIEaTAKEOUT BOXaCHOPSTICKSaBOWL WITH SPOONaCUP WITH STRAWaC
OCONUTaBROCCOLIaPIEaPRETZELaCUT OF MEATaSANDWICHaCANNED FOODaLEAFY GREENaMANGOaMOON CAKEaBAGELa
SMILING FACE WITH SMILING EYES AND THREE HEARTSaYAWNING FACEaSMILING FACE WITH TEARaFACE WITH P
ARTY HORN AND PARTY HATcUNEVEN EYES AND WAVY MOUTHaOVERHEATED FACEaFREEZING FACEaNINJAaDISGUISE
D FACEaFACE HOLDING BACK TEARSbWITH PLEADING EYESaSARIaLAB COATaGOGGLESaHIKING BOOTaFLAT SHOEaC
RABaLION FACEaSCORPIONaTURKEYaUNICORN FACEaEAGLEaDUCKaBATaSHARKaOWLaFOX FACEaBUTTERFLYaDEERaGOR
ILLAaLIZARDaRHINOCEROSaSHRIMPaSQUIDaGIRAFFE FACEaZEBRA FACEaHEDGEHOGaSAUROPODaT-REXaCRICKETaKAN
GAROOaLLAMAaPEACOCKaHIPPOPOTAMUSaPARROTaRACCOONaLOBSTERaMOSQUITOaMICROBEaBADGERaSWANaMAMMOTHaDO
DOaSLOTHaOTTERaORANGUTANaSKUNKaFLAMINGOaOYSTERaBEAVERaBISONaSEALaGUIDE DOGaPROBING CANEaEMOJI C
OMPONENT RED HAIRcCURLY HAIRcBALDcWHITE HAIRaBONEaLEGaFOOTaTOOTHaSUPERHEROaSUPERVILLAINaSAFET
Y VESTaEAR WITH HEARING AIDaMOTORIZED WHEELCHAIRaMANUAL WHEELCHAIRaMECHANICAL ARMbLEGaCHEESE WE
DGEaCUPCAKEaSALT SHAKERaBEVERAGE BOXaGARLICaONIONaFALAFELaWAFFLEaBUTTERaMATE DRINKaICE CUBEaBUB
BLE TEAaTROLLaSTANDING PERSONaKNEELING PERSONaDEAF PERSONaFACE WITH MONOCLEaADULTaCHILDaOLDER A
DULTaBEARDED PERSONaPERSON WITH HEADSCARFbIN STEAMY ROOMbCLIMBINGbIN LOTUS POSITIONaMAGEaFAIRYa
VAMPIREaMERPERSONaELFaGENIEaZOMBIEaBRAINaORANGE HEARTaBILLED CAPaSCARFaGLOVESaCOATaSOCKSaRED GI
FT ENVELOPEaFIRECRACKERaJIGSAW PUZZLE PIECEaTEST TUBEaPETRI DISHaDNA DOUBLE HELIXaCOMPASSaABACU
SaFIRE EXTINGUISHERaTOOLBOXaBRICKaMAGNETaLUGGAGEaLOTION BOTTLEaSPOOL OF THREADaBALL OF YARNaSAF
ETY PINaTEDDY BEARaBROOMaBASKETaROLL OF PAPERaBAR OF SOAPaSPONGEaRECEIPTaNAZAR AMULETaNEUTRAL C
HESS KINGcQUEENcROOKcBISHOPcKNIGHTcPAWNaWHITE CHESS KNIGHT ROTATED FORTY-FIVE DEGREESaBLACK CHE
SS KNIGHT ROTATED FORTY-FIVE DEGREESaNEUTRAL CHESS KNIGHT ROTATED FORTY-FIVE DEGREESaWHITE CHES
S KING ROTATED NINETY DEGREEScQUEEN ROTATED NINETY DEGREEScROOK ROTATED NINETY DEGREEScBISHOP R
OTATED NINETY DEGREEScKNIGHT ROTATED NINETY DEGREEScPAWN ROTATED NINETY DEGREESaBLACK CHESS KIN
G ROTATED NINETY DEGREEScQUEEN ROTATED NINETY DEGREEScROOK ROTATED NINETY DEGREEScBISHOP ROTATE
D NINETY DEGREEScKNIGHT ROTATED NINETY DEGREEScPAWN ROTATED NINETY DEGREESaNEUTRAL CHESS KING R
OTATED NINETY DEGREEScQUEEN ROTATED NINETY DEGREEScROOK ROTATED NINETY DEGREEScBISHOP ROTATED N
INETY DEGREEScKNIGHT ROTATED NINETY DEGREEScPAWN ROTATED NINETY DEGREESaWHITE CHESS KNIGHT ROTA
TED ONE HUNDRED THIRTY-FIVE DEGREESaBLACK CHESS KNIGHT ROTATED ONE HUNDRED THIRTY-FIVE DEGREESa
NEUTRAL CHESS KNIGHT ROTATED ONE HUNDRED THIRTY-FIVE DEGREESaWHITE CHESS TURNED KINGdQUEENdROOK
dBISHOPdKNIGHTdPAWNaBLACK CHESS TURNED KINGdQUEENdROOKdBISHOPdKNIGHTdPAWNaNEUTRAL CHESS TURNE
D KINGdQUEENdROOKdBISHOPdKNIGHTdPAWNaWHITE CHESS KNIGHT ROTATED TWO HUNDRED TWENTY-FIVE DEGREES
aBLACK CHESS KNIGHT ROTATED TWO HUNDRED TWENTY-FIVE DEGREESaNEUTRAL CHESS KNIGHT ROTATED TWO HU
NDRED TWENTY-FIVE DEGREESaWHITE CHESS KING ROTATED TWO HUNDRED SEVENTY DEGREEScQUEEN ROTATED TW
O HUNDRED SEVENTY DEGREEScROOK ROTATED TWO HUNDRED SEVENTY DEGREEScBISHOP ROTATED TWO HUNDRED S
EVENTY DEGREEScKNIGHT ROTATED TWO HUNDRED SEVENTY DEGREEScPAWN ROTATED TWO HUNDRED SEVENTY DEGR
EESaBLACK CHESS KING ROTATED TWO HUNDRED SEVENTY DEGREEScQUEEN ROTATED TWO HUNDRED SEVENTY DEGR
EEScROOK ROTATED TWO HUNDRED SEVENTY DEGREEScBISHOP ROTATED TWO HUNDRED SEVENTY DEGREEScKNIGH
T ROTATED TWO HUNDRED SEVENTY DEGREEScPAWN ROTATED TWO HUNDRED SEVENTY DEGREESaNEUTRAL CHESS KI
NG ROTATED TWO HUNDRED SEVENTY DEGREEScQUEEN ROTATED TWO HUNDRED SEVENTY DEGREEScROOK ROTATED T
WO HUNDRED SEVENTY DEGREEScBISHOP ROTATED TWO HUNDRED SEVENTY DEGREEScKNIGHT ROTATED TWO HUNDRE
D SEVENTY DEGREEScPAWN ROTATED TWO HUNDRED SEVENTY DEGREESaWHITE CHESS KNIGHT ROTATED THREE HUN
DRED FIFTEEN DEGREESaBLACK CHESS KNIGHT ROTATED THREE HUNDRED FIFTEEN DEGREESaNEUTRAL CHESS KNI
GHT ROTATED THREE HUNDRED FIFTEEN DEGREESaWHITE CHESS EQUIHOPPERaBLACK CHESS EQUIHOPPERaNEUTRA
L CHESS EQUIHOPPERaWHITE CHESS EQUIHOPPER ROTATED NINETY DEGREESaBLACK CHESS EQUIHOPPER ROTATE
D NINETY DEGREESaNEUTRAL CHESS EQUIHOPPER ROTATED NINETY DEGREESaWHITE CHESS KNIGHT-QUEENcKNIGH
T-ROOKcKNIGHT-BISHOPaBLACK CHESS KNIGHT-QUEENcKNIGHT-ROOKcKNIGHT-BISHOP@1FA60aXIANGQI RED GENER
ALcMANDARINcELEPHANTcHORSEcCHARIOTcCANNONcSOLDIERbBLACK GENERALcMANDARINcELEPHANTcHORSEcCHARIOT
cCANNONcSOLDIER@1FA70aBALLET SHOESaONE-PIECE SWIMSUITaBRIEFSaSHORTSaTHONG SANDAL@1FA78aDROP O
F BLOODaADHESIVE BANDAGEaSTETHOSCOPEaX-RAYaCRUTCH@1FA80aYO-YOaKITEaPARACHUTEaBOOMERANGaMAGIC WA
NDaPINATAaNESTING DOLLS@1FA90aRINGED PLANETaCHAIRaRAZORaAXEaDIYA LAMPaBANJOaMILITARY HELMETaACC
ORDIONaLONG DRUMaCOINaCARPENTRY SAWaSCREWDRIVERaLADDERaHOOKaMIRRORaWINDOWaPLUNGERaSEWING NEEDLE
aKNOTaBUCKETaMOUSE TRAPaTOOTHBRUSHaHEADSTONEaPLACARDaROCKaMIRROR BALLaIDENTIFICATION CARDaLOW B
ATTERYaHAMSA@1FAB0aFLYaWORMaBEETLEaCOCKROACHaPOTTED PLANTaWOODaFEATHERaLOTUSaCORALaEMPTY NESTaN
EST WITH EGGS@1FAC0aANATOMICAL HEARTaLUNGSaPEOPLE HUGGINGaPREGNANT MANbPERSONaPERSON WITH CROWN
@1FAD0aBLUEBERRIESaBELL PEPPERaOLIVEaFLATBREADaTAMALEaFONDUEaTEAPOTaPOURING LIQUIDaBEANSaJAR@1F
AE0aMELTING FACEaSALUTING FACEaFACE WITH OPEN EYES AND HAND OVER MOUTHcPEEKING EYEcDIAGONAL MOU
THaDOTTED LINE FACEaBITING LIPaBUBBLES@1FAF0aHAND WITH INDEX FINGER AND THUMB CROSSEDaRIGHTWARD
S HANDaLEFTWARDS HANDaPALM DOWN HANDbUP HANDaINDEX POINTING AT THE VIEWERaHEART HANDS@1FB00aBLO
CK SEXTANT-1bSEXTANT-2bSEXTANT-12bSEXTANT-3bSEXTANT-13bSEXTANT-23bSEXTANT-123bSEXTANT-4bSEXTANT
-14bSEXTANT-24bSEXTANT-124bSEXTANT-34bSEXTANT-134bSEXTANT-234bSEXTANT-1234bSEXTANT-5bSEXTANT-15
bSEXTANT-25bSEXTANT-125bSEXTANT-35bSEXTANT-235bSEXTANT-1235bSEXTANT-45bSEXTANT-145bSEXTANT-245b
SEXTANT-1245bSEXTANT-345bSEXTANT-1345bSEXTANT-2345bSEXTANT-12345bSEXTANT-6bSEXTANT-16bSEXTANT-2
6bSEXTANT-126bSEXTANT-36bSEXTANT-136bSEXTANT-236bSEXTANT-1236bSEXTANT-46bSEXTANT-146bSEXTANT-12
46bSEXTANT-346bSEXTANT-1346bSEXTANT-2346bSEXTANT-12346bSEXTANT-56bSEXTANT-156bSEXTANT-256bSEXTA
NT-1256bSEXTANT-356bSEXTANT-1356bSEXTANT-2356bSEXTANT-12356bSEXTANT-456bSEXTANT-1456bSEXTANT-24
56bSEXTANT-12456bSEXTANT-3456bSEXTANT-13456bSEXTANT-23456aLOWER LEFT BLOCK DIAGONAL LOWER MIDDL
E LEFT TO LOWER CENTREjRIGHTeUPPER MIDDLE LEFT TO LOWER CENTREjRIGHTfLEFT TO LOWER CENTREbRIGH
T BLOCK DIAGONAL UPPER MIDDLE LEFT TO UPPER CENTREjRIGHTeLOWER MIDDLE LEFT TO UPPER CENTREjRIGH
TfLEFT TO UPPER CENTREfMIDDLE LEFT TO UPPER MIDDLE RIGHTfCENTRE TO LOWER MIDDLE RIGHTfLEFT TO L
OWER MIDDLE RIGHTfCENTRE TO UPPER MIDDLE RIGHTfLEFT TO UPPER MIDDLE RIGHTfCENTRE TO UPPER RIGHT
bLEFT BLOCK DIAGONAL UPPER CENTRE TO UPPER MIDDLE RIGHTfLEFT TO UPPER MIDDLE RIGHTfCENTRE TO LO
WER MIDDLE RIGHTfLEFT TO LOWER MIDDLE RIGHTfCENTRE TO LOWER RIGHTfMIDDLE LEFT TO LOWER MIDDLE R
IGHTaUPPER RIGHT BLOCK DIAGONAL LOWER MIDDLE LEFT TO LOWER CENTREjRIGHTeUPPER MIDDLE LEFT TO LO
WER CENTREjRIGHTfLEFT TO LOWER CENTREbLEFT BLOCK DIAGONAL UPPER MIDDLE LEFT TO UPPER CENTREjRIG
HTeLOWER MIDDLE LEFT TO UPPER CENTREjRIGHTfLEFT TO UPPER CENTREfMIDDLE LEFT TO UPPER MIDDLE RIG
HTfCENTRE TO LOWER MIDDLE RIGHTfLEFT TO LOWER MIDDLE RIGHTfCENTRE TO UPPER MIDDLE RIGHTfLEFT T
O UPPER MIDDLE RIGHTfCENTRE TO UPPER RIGHTbRIGHT BLOCK DIAGONAL UPPER CENTRE TO UPPER MIDDLE RI
GHTfLEFT TO UPPER MIDDLE RIGHTfCENTRE TO LOWER MIDDLE RIGHTfLEFT TO LOWER MIDDLE RIGHTfCENTRE T
O LOWER RIGHTfMIDDLE LEFT TO LOWER MIDDLE RIGHTbAND RIGHT AND LOWER TRIANGULAR THREE QUARTERS B
LOCKaLEFT AND LOWER AND RIGHT TRIANGULAR THREE QUARTERS BLOCKaUPPER AND LEFT AND LOWER TRIANGUL
AR THREE QUARTERS BLOCKaLEFT AND UPPER AND RIGHT TRIANGULAR THREE QUARTERS BLOCKbTRIANGULAR ON
E QUARTER BLOCKaUPPER TRIANGULAR ONE QUARTER BLOCKaRIGHT TRIANGULAR ONE QUARTER BLOCKaLOWER TRI
ANGULAR ONE QUARTER BLOCKaVERTICAL ONE EIGHTH BLOCK-2dBLOCK-3dBLOCK-4dBLOCK-5dBLOCK-6dBLOCK-7aH
ORIZONTAL ONE EIGHTH BLOCK-2dBLOCK-3dBLOCK-4dBLOCK-5dBLOCK-6dBLOCK-7aLEFT AND LOWER ONE EIGHT
H BLOCKcUPPER ONE EIGHTH BLOCKaRIGHT AND UPPER ONE EIGHTH BLOCKcLOWER ONE EIGHTH BLOCKaUPPER AN
D LOWER ONE EIGHTH BLOCKaHORIZONTAL ONE EIGHTH BLOCK-1358aUPPER ONE QUARTER BLOCKbTHREE EIGHTH
S BLOCKbFIVE EIGHTHS BLOCKbTHREE QUARTERS BLOCKbSEVEN EIGHTHS BLOCKaRIGHT ONE QUARTER BLOCKbTHR
EE EIGHTHS BLOCKbFIVE EIGHTHS BLOCKbTHREE QUARTERS BLOCKbSEVEN EIGHTHS BLOCKaLEFT HALF MEDIUM S
HADEaRIGHT HALF MEDIUM SHADEaUPPER HALF MEDIUM SHADEaLOWER HALF MEDIUM SHADEaINVERSE MEDIUM SHA
DEaUPPER HALF BLOCK AND LOWER HALF INVERSE MEDIUM SHADEcINVERSE MEDIUM SHADE AND LOWER HALF BLO
CK@1FB94aLEFT HALF INVERSE MEDIUM SHADE AND RIGHT HALF BLOCKaCHECKER BOARD FILLaINVERSE CHECKE
R BOARD FILLaHEAVY HORIZONTAL FILLaUPPER LEFT TO LOWER RIGHT FILLbRIGHT TO LOWER LEFT FILLbAN
D LOWER TRIANGULAR HALF BLOCKaLEFT AND RIGHT TRIANGULAR HALF BLOCKaUPPER LEFT TRIANGULAR MEDIU
M SHADEbRIGHT TRIANGULAR MEDIUM SHADEaLOWER RIGHT TRIANGULAR MEDIUM SHADEbLEFT TRIANGULAR MEDIU
M SHADEaBOX DRAWINGS LIGHT DIAGONAL UPPER CENTRE TO MIDDLE LEFTiRIGHTeMIDDLE LEFT TO LOWER CENT
REfRIGHT TO LOWER CENTREeUPPER CENTRE TO MIDDLE LEFT TO LOWER CENTREiRIGHT TO LOWER CENTREeMIDD
LE LEFT TO LOWER CENTRE TO MIDDLE RIGHThUPPER CENTRE TO MIDDLE RIGHTeUPPER CENTRE TO MIDDLE LEF
T AND MIDDLE RIGHT TO LOWER CENTREiRIGHT AND MIDDLE LEFT TO LOWER CENTREjTO LOWER CENTRE TO MID
DLE LEFTiLEFT TO LOWER CENTRE TO MIDDLE RIGHTeMIDDLE LEFT TO UPPER CENTRE TO MIDDLE RIGHT TO LO
WER CENTREfRIGHT TO UPPER CENTRE TO MIDDLE LEFT TO LOWER CENTREeDIAMONDdHORIZONTAL WITH VERTICA
L STROKEaARROWHEAD-SHAPED POINTERaINVERSE CHECK MARKaLEFT HALF RUNNING MANaRIGHT HALF RUNNING M
ANaINVERSE DOWNWARDS ARROW WITH TIP LEFTWARDSaLEFTWARDS ARROW AND UPPER AND LOWER ONE EIGHTH BL
OCKaRIGHTWARDS ARROW AND UPPER AND LOWER ONE EIGHTH BLOCKaDOWNWARDS ARROW AND RIGHT ONE EIGHT
H BLOCKaUPWARDS ARROW AND RIGHT ONE EIGHTH BLOCKaLEFT HALF FOLDERaRIGHT HALF FOLDERaVOIDED GREE
K CROSSaRIGHT OPEN SQUARED DOTaNEGATIVE DIAGONAL CROSScMIDDLE RIGHT TO LOWER CENTREcDIAMONDaWHI
TE HEAVY SALTIRE WITH ROUNDED CORNERSaLEFT THIRD WHITE RIGHT POINTING INDEXaMIDDLE THIRD WHIT
E RIGHT POINTING INDEXaRIGHT THIRD WHITE RIGHT POINTING INDEXaNEGATIVE SQUARED QUESTION MARKaST
ICK FIGUREcWITH ARMS RAISEDcLEANING LEFTdRIGHTcWITH DRESSaWHITE UP-POINTING CHEVRON@1FBF0aSEGME
NTED DIGIT ZEROcONEcTWOcTHREEcFOURcFIVEcSIXcSEVENcEIGHTcNINE@E0001aLANGUAGE TAG@E0020aTAG SPACE
bEXCLAMATION MARKbQUOTATION MARKbNUMBER SIGNbDOLLAR SIGNbPERCENT SIGNbAMPERSANDbAPOSTROPHEbLEF
T PARENTHESISbRIGHT PARENTHESISbASTERISKbPLUS SIGNbCOMMAbHYPHEN-MINUSbFULL STOPbSOLIDUSbDIGIT Z
EROcONEcTWOcTHREEcFOURcFIVEcSIXcSEVENcEIGHTcNINEbCOLONbSEMICOLONbLESS-THAN SIGNbEQUALS SIGNbGRE
ATER-THAN SIGNbQUESTION MARKbCOMMERCIAL ATbLATIN CAPITAL LETTER AeBeCeDeEeFeGeHeIeJeKeLeMeNeOeP
eQeReSeTeUeVeWeXeYeZbLEFT SQUARE BRACKETbREVERSE SOLIDUSbRIGHT SQUARE BRACKETbCIRCUMFLEX ACCENT
bLOW LINEbGRAVE ACCENTbLATIN SMALL LETTER AeBeCeDeEeFeGeHeIeJeKeLeMeNeOePeQeReSeTeUeVeWeXeYeZbL
EFT CURLY BRACKETbVERTICAL LINEbRIGHT CURLY BRACKETbTILDEaCANCEL TAG@E0100aVARIATION SELECTOR-1
7@E0100aVS17aVARIATION SELECTOR-18@E0101aVS18aVARIATION SELECTOR-19@E0102aVS19aVARIATION SELECT
OR-20@E0103aVS20aVARIATION SELECTOR-21@E0104aVS21aVARIATION SELECTOR-22@E0105aVS22aVARIATION SE
LECTOR-23@E0106aVS23aVARIATION SELECTOR-24@E0107aVS24aVARIATION SELECTOR-25@E0108aVS25aVARIATIO
N SELECTOR-26@E0109aVS26aVARIATION SELECTOR-27@E010AaVS27aVARIATION SELECTOR-28@E010BaVS28aVARI
ATION SELECTOR-29@E010CaVS29aVARIATION SELECTOR-30@E010DaVS30aVARIATION SELECTOR-31@E010EaVS31a
VARIATION SELECTOR-32@E010FaVS32aVARIATION SELECTOR-33@E0110aVS33aVARIATION SELECTOR-34@E0111aV
S34aVARIATION SELECTOR-35@E0112aVS35aVARIATION SELECTOR-36@E0113aVS36aVARIATION SELECTOR-37@E01
14aVS37aVARIATION SELECTOR-38@E0115aVS38aVARIATION SELECTOR-39@E0116aVS39aVARIATION SELECTOR-40
@E0117aVS40aVARIATION SELECTOR-41@E0118aVS41aVARIATION SELECTOR-42@E0119aVS42aVARIATION SELECTO
R-43@E011AaVS43aVARIATION SELECTOR-44@E011BaVS44aVARIATION SELECTOR-45@E011CaVS45aVARIATION SEL
ECTOR-46@E011DaVS46aVARIATION SELECTOR-47@E011EaVS47aVARIATION SELECTOR-48@E011FaVS48aVARIATIO
N SELECTOR-49@E0120aVS49aVARIATION SELECTOR-50@E0121aVS50aVARIATION SELECTOR-51@E0122aVS51aVARI
ATION SELECTOR-52@E0123aVS52aVARIATION SELECTOR-53@E0124aVS53aVARIATION SELECTOR-54@E0125aVS54a
VARIATION SELECTOR-55@E0126aVS55aVARIATION SELECTOR-56@E0127aVS56aVARIATION SELECTOR-57@E0128aV
S57aVARIATION SELECTOR-58@E0129aVS58aVARIATION SELECTOR-59@E012AaVS59aVARIATION SELECTOR-60@E01
2BaVS60aVARIATION SELECTOR-61@E012CaVS61aVARIATION SELECTOR-62@E012DaVS62aVARIATION SELECTOR-63
@E012EaVS63aVARIATION SELECTOR-64@E012FaVS64aVARIATION SELECTOR-65@E0130aVS65aVARIATION SELECTO
R-66@E0131aVS66aVARIATION SELECTOR-67@E0132aVS67aVARIATION SELECTOR-68@E0133aVS68aVARIATION SEL
ECTOR-69@E0134aVS69aVARIATION SELECTOR-70@E0135aVS70aVARIATION SELECTOR-71@E0136aVS71aVARIATIO
N SELECTOR-72@E0137aVS72aVARIATION SELECTOR-73@E0138aVS73aVARIATION SELECTOR-74@E0139aVS74aVARI
ATION SELECTOR-75@E013AaVS75aVARIATION SELECTOR-76@E013BaVS76aVARIATION SELECTOR-77@E013CaVS77a
VARIATION SELECTOR-78@E013DaVS78aVARIATION SELECTOR-79@E013EaVS79aVARIATION SELECTOR-80@E013FaV
S80aVARIATION SELECTOR-81@E0140aVS81aVARIATION SELECTOR-82@E0141aVS82aVARIATION SELECTOR-83@E01
42aVS83aVARIATION SELECTOR-84@E0143aVS84aVARIATION SELECTOR-85@E0144aVS85aVARIATION SELECTOR-86
@E0145aVS86aVARIATION SELECTOR-87@E0146aVS87aVARIATION SELECTOR-88@E0147aVS88aVARIATION SELECTO
R-89@E0148aVS89aVARIATION SELECTOR-90@E0149aVS90aVARIATION SELECTOR-91@E014AaVS91aVARIATION SEL
ECTOR-92@E014BaVS92aVARIATION SELECTOR-93@E014CaVS93aVARIATION SELECTOR-94@E014DaVS94aVARIATIO
N SELECTOR-95@E014EaVS95aVARIATION SELECTOR-96@E014FaVS96aVARIATION SELECTOR-97@E0150aVS97aVARI
ATION SELECTOR-98@E0151aVS98aVARIATION SELECTOR-99@E0152aVS99aVARIATION SELECTOR-100@E0153aVS10
0aVARIATION SELECTOR-101@E0154aVS101aVARIATION SELECTOR-102@E0155aVS102aVARIATION SELECTOR-103@
E0156aVS103aVARIATION SELECTOR-104@E0157aVS104aVARIATION SELECTOR-105@E0158aVS105aVARIATION SEL
ECTOR-106@E0159aVS106aVARIATION SELECTOR-107@E015AaVS107aVARIATION SELECTOR-108@E015BaVS108aVAR
IATION SELECTOR-109@E015CaVS109aVARIATION SELECTOR-110@E015DaVS110aVARIATION SELECTOR-111@E015E
aVS111aVARIATION SELECTOR-112@E015FaVS112aVARIATION SELECTOR-113@E0160aVS113aVARIATION SELECTOR
-114@E0161aVS114aVARIATION SELECTOR-115@E0162aVS115aVARIATION SELECTOR-116@E0163aVS116aVARIATIO
N SELECTOR-117@E0164aVS117aVARIATION SELECTOR-118@E0165aVS118aVARIATION SELECTOR-119@E0166aVS11
9aVARIATION SELECTOR-120@E0167aVS120aVARIATION SELECTOR-121@E0168aVS121aVARIATION SELECTOR-122@
E0169aVS122aVARIATION SELECTOR-123@E016AaVS123aVARIATION SELECTOR-124@E016BaVS124aVARIATION SEL
ECTOR-125@E016CaVS125aVARIATION SELECTOR-126@E016DaVS126aVARIATION SELECTOR-127@E016EaVS127aVAR
IATION SELECTOR-128@E016FaVS128aVARIATION SELECTOR-129@E0170aVS129aVARIATION SELECTOR-130@E0171
aVS130aVARIATION SELECTOR-131@E0172aVS131aVARIATION SELECTOR-132@E0173aVS132aVARIATION SELECTOR
-133@E0174aVS133aVARIATION SELECTOR-134@E0175aVS134aVARIATION SELECTOR-135@E0176aVS135aVARIATIO
N SELECTOR-136@E0177aVS136aVARIATION SELECTOR-137@E0178aVS137aVARIATION SELECTOR-138@E0179aVS13
8aVARIATION SELECTOR-139@E017AaVS139aVARIATION SELECTOR-140@E017BaVS140aVARIATION SELECTOR-141@
E017CaVS141aVARIATION SELECTOR-142@E017DaVS142aVARIATION SELECTOR-143@E017EaVS143aVARIATION SEL
ECTOR-144@E017FaVS144aVARIATION SELECTOR-145@E0180aVS145aVARIATION SELECTOR-146@E0181aVS146aVAR
IATION SELECTOR-147@E0182aVS147aVARIATION SELECTOR-148@E0183aVS148aVARIATION SELECTOR-149@E0184
aVS149aVARIATION SELECTOR-150@E0185aVS150aVARIATION SELECTOR-151@E0186aVS151aVARIATION SELECTOR
-152@E0187aVS152aVARIATION SELECTOR-153@E0188aVS153aVARIATION SELECTOR-154@E0189aVS154aVARIATIO
N SELECTOR-155@E018AaVS155aVARIATION SELECTOR-156@E018BaVS156aVARIATION SELECTOR-157@E018CaVS15
7aVARIATION SELECTOR-158@E018DaVS158aVARIATION SELECTOR-159@E018EaVS159aVARIATION SELECTOR-160@
E018FaVS160aVARIATION SELECTOR-161@E0190aVS161aVARIATION SELECTOR-162@E0191aVS162aVARIATION SEL
ECTOR-163@E0192aVS163aVARIATION SELECTOR-164@E0193aVS164aVARIATION SELECTOR-165@E0194aVS165aVAR
IATION SELECTOR-166@E0195aVS166aVARIATION SELECTOR-167@E0196aVS167aVARIATION SELECTOR-168@E0197
aVS168aVARIATION SELECTOR-169@E0198aVS169aVARIATION SELECTOR-170@E0199aVS170aVARIATION SELECTOR
-171@E019AaVS171aVARIATION SELECTOR-172@E019BaVS172aVARIATION SELECTOR-173@E019CaVS173aVARIATIO
N SELECTOR-174@E019DaVS174aVARIATION SELECTOR-175@E019EaVS175aVARIATION SELECTOR-176@E019FaVS17
6aVARIATION SELECTOR-177@E01A0aVS177aVARIATION SELECTOR-178@E01A1aVS178aVARIATION SELECTOR-179@
E01A2aVS179aVARIATION SELECTOR-180@E01A3aVS180aVARIATION SELECTOR-181@E01A4aVS181aVARIATION SEL
ECTOR-182@E01A5aVS182aVARIATION SELECTOR-183@E01A6aVS183aVARIATION SELECTOR-184@E01A7aVS184aVAR
IATION SELECTOR-185@E01A8aVS185aVARIATION SELECTOR-186@E01A9aVS186aVARIATION SELECTOR-187@E01AA
aVS187aVARIATION SELECTOR-188@E01ABaVS188aVARIATION SELECTOR-189@E01ACaVS189aVARIATION SELECTOR
-190@E01ADaVS190aVARIATION SELECTOR-191@E01AEaVS191aVARIATION SELECTOR-192@E01AFaVS192aVARIATIO
N SELECTOR-193@E01B0aVS193aVARIATION SELECTOR-194@E01B1aVS194aVARIATION SELECTOR-195@E01B2aVS19
5aVARIATION SELECTOR-196@E01B3aVS196aVARIATION SELECTOR-197@E01B4aVS197aVARIATION SELECTOR-198@
E01B5aVS198aVARIATION SELECTOR-199@E01B6aVS199aVARIATION SELECTOR-200@E01B7aVS200aVARIATION SEL
ECTOR-201@E01B8aVS201aVARIATION SELECTOR-202@E01B9aVS202aVARIATION SELECTOR-203@E01BAaVS203aVAR
IATION SELECTOR-204@E01BBaVS204aVARIATION SELECTOR-205@E01BCaVS205aVARIATION SELECTOR-206@E01BD
aVS206aVARIATION SELECTOR-207@E01BEaVS207aVARIATION SELECTOR-208@E01BFaVS208aVARIATION SELECTOR
-209@E01C0aVS209aVARIATION SELECTOR-210@E01C1aVS210aVARIATION SELECTOR-211@E01C2aVS211aVARIATIO
N SELECTOR-212@E01C3aVS212aVARIATION SELECTOR-213@E01C4aVS213aVARIATION SELECTOR-214@E01C5aVS21
4aVARIATION SELECTOR-215@E01C6aVS215aVARIATION SELECTOR-216@E01C7aVS216aVARIATION SELECTOR-217@
E01C8aVS217aVARIATION SELECTOR-218@E01C9aVS218aVARIATION SELECTOR-219@E01CAaVS219aVARIATION SEL
ECTOR-220@E01CBaVS220aVARIATION SELECTOR-221@E01CCaVS221aVARIATION SELECTOR-222@E01CDaVS222aVAR
IATION SELECTOR-223@E01CEaVS223aVARIATION SELECTOR-224@E01CFaVS224aVARIATION SELECTOR-225@E01D0
aVS225aVARIATION SELECTOR-226@E01D1aVS226aVARIATION SELECTOR-227@E01D2aVS227aVARIATION SELECTOR
-228@E01D3aVS228aVARIATION SELECTOR-229@E01D4aVS229aVARIATION SELECTOR-230@E01D5aVS230aVARIATIO
N SELECTOR-231@E01D6aVS231aVARIATION SELECTOR-232@E01D7aVS232aVARIATION SELECTOR-233@E01D8aVS23
3aVARIATION SELECTOR-234@E01D9aVS234aVARIATION SELECTOR-235@E01DAaVS235aVARIATION SELECTOR-236@
E01DBaVS236aVARIATION SELECTOR-237@E01DCaVS237aVARIATION SELECTOR-238@E01DDaVS238aVARIATION SEL
ECTOR-239@E01DEaVS239aVARIATION SELECTOR-240@E01DFaVS240aVARIATION SELECTOR-241@E01E0aVS241aVAR
IATION SELECTOR-242@E01E1aVS242aVARIATION SELECTOR-243@E01E2aVS243aVARIATION SELECTOR-244@E01E3
aVS244aVARIATION SELECTOR-245@E01E4aVS245aVARIATION SELECTOR-246@E01E5aVS246aVARIATION SELECTOR
-247@E01E6aVS247aVARIATION SELECTOR-248@E01E7aVS248aVARIATION SELECTOR-249@E01E8aVS249aVARIATIO
N SELECTOR-250@E01E9aVS250aVARIATION SELECTOR-251@E01EAaVS251aVARIATION SELECTOR-252@E01EBaVS25
2aVARIATION SELECTOR-253@E01ECaVS253aVARIATION SELECTOR-254@E01EDaVS254aVARIATION SELECTOR-255@
E01EEaVS255aVARIATION SELECTOR-256@E01EFaVS256"

/-- The names that end with the number of their code point, with the first and the last number of
each range. -/
def numberedNames : List (String × List (Nat × Nat)) := [
  ("CJK COMPATIBILITY IDEOGRAPH", [(0xF900, 0xFA6D), (0xFA70, 0xFAD9), (0x2F800, 0x2FA1D)]),
  ("KHITAN SMALL SCRIPT CHARACTER", [(0x18B00, 0x18CD5)]),
  ("NUSHU CHARACTER", [(0x1B170, 0x1B2FB)])]

/-- The ranges of the characters that all have the same name but for their number. -/
def ideographs : List (Nat × Nat) := [
  (0x3400, 0x4DBF), (0x4E00, 0x9FFF), (0x20000, 0x2A6DF), (0x2A700, 0x2B738), (0x2B740, 0x2B81D),
  (0x2B820, 0x2CEA1), (0x2CEB0, 0x2EBE0), (0x30000, 0x3134A)]

end Bindery.Text
